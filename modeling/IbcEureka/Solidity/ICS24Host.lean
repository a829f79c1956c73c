/-
# ICS24 paths and commitments in Solidity

`ICS24Host`: the Solidity library that builds the same paths, keys and
commitments as `solana_ibc_types::ics24`, with `abi.encodePacked` in place of
byte-vector extension. The sequence goes through `uint64ToBigEndian`, an
assembly shift that puts the `uint64` in the high bytes of a `bytes8`; the
receipt commitment hashes the standard ABI encoding of the packet, not borsh.

Key definitions: `ICS24Host.commitmentPathCalldata`,
`ICS24Host.packetCommitmentBytes32`,
`ICS24Host.packetAcknowledgementCommitmentBytes32`,
`ICS24Host.packetReceiptCommitmentBytes32`, `ICS24Host.prefixedPath`.
Key theorems: `ICS24Host.uint64ToBigEndian_toNat`, `ICS24Host.commitmentPathCalldata_eq`.
-/
import IbcEureka.Packet
import IbcEureka.Lib.Abi

namespace ICS24Host

/-- `IICS24HostErrors`. -/
inductive IICS24HostErrors
  | NoAcknowledgements
  | InvalidMerklePrefix (merklePrefix : List Bytes)
  deriving DecidableEq, Repr

/-- `uint64ToBigEndian`: `shl(192, value)` on the 256-bit word holding `value`,
read back as a `bytes8`, that is, as the word's high eight bytes. -/
def uint64ToBigEndian (value : UInt64) : BitVec 64 :=
  ((value.toBitVec.setWidth 256) <<< 192).extractLsb' 192 64

theorem uint64ToBigEndian_toNat (value : UInt64) : (uint64ToBigEndian value).toNat = value.toNat := by
  have hlt : value.toNat < 2 ^ 64 := value.toNat_lt
  have hshift : value.toNat * 2 ^ 192 < 2 ^ 256 := by
    calc value.toNat * 2 ^ 192 < 2 ^ 64 * 2 ^ 192 := Nat.mul_lt_mul_of_pos_right hlt (Nat.two_pow_pos 192)
      _ = 2 ^ 256 := by rw [← Nat.pow_add]
  simp only [uint64ToBigEndian, BitVec.extractLsb'_toNat, BitVec.toNat_shiftLeft, BitVec.toNat_setWidth,
    UInt64.toNat_toBitVec, Nat.shiftLeft_eq, Nat.shiftRight_eq_div_pow]
  rw [Nat.mod_eq_of_lt (by omega : value.toNat < 2 ^ 256), Nat.mod_eq_of_lt hshift,
    Nat.mul_div_cancel _ (Nat.two_pow_pos 192), Nat.mod_eq_of_lt hlt]

/-- The three path functions differ only in their tag:
`abi.encodePacked(clientId, uint8(tag), uint64ToBigEndian(sequence))`. -/
def commitmentPathCalldata (tag : ℕ) (clientId : Bytes) (sequence : UInt64) : Bytes :=
  Abi.encodePacked [.raw clientId, .uint 1 tag, .fixedBytes 8 (uint64ToBigEndian sequence)]

/-- `packetCommitmentPathCalldata`. -/
def packetCommitmentPathCalldata (clientId : Bytes) (sequence : UInt64) : Bytes :=
  commitmentPathCalldata 1 clientId sequence

/-- `packetAcknowledgementCommitmentPathCalldata`. -/
def packetAcknowledgementCommitmentPathCalldata (clientId : Bytes) (sequence : UInt64) : Bytes :=
  commitmentPathCalldata 3 clientId sequence

/-- `packetReceiptCommitmentPathCalldata`. -/
def packetReceiptCommitmentPathCalldata (clientId : Bytes) (sequence : UInt64) : Bytes :=
  commitmentPathCalldata 2 clientId sequence

/-- The path of each kind of entry. -/
def kindPathCalldata : PathKind → Bytes → UInt64 → Bytes
  | .commitment => packetCommitmentPathCalldata
  | .receipt => packetReceiptCommitmentPathCalldata
  | .acknowledgement => packetAcknowledgementCommitmentPathCalldata

theorem commitmentPathCalldata_eq (tag : ℕ) (clientId : Bytes) (sequence : UInt64) :
    commitmentPathCalldata tag clientId sequence =
      clientId ++ [UInt8.ofNat tag] ++ sequence.toBeBytes := by
  have htag : Bytes.be 1 tag = [UInt8.ofNat tag] := by
    simp only [Bytes.be, List.nil_append, List.cons.injEq, and_true]
    apply UInt8.toNat_inj.mp
    simp
  simp [commitmentPathCalldata, Abi.Packed.encode, htag, uint64ToBigEndian_toNat, UInt64.toBeBytes]

/-- A path determines its tag byte, its client id and its sequence: the last nine bytes
have a fixed width, so the client id is whatever comes before them. -/
theorem commitmentPathCalldata_inj {tag tag' : ℕ} {clientId clientId' : Bytes} {sequence sequence' : UInt64}
    (h : commitmentPathCalldata tag clientId sequence = commitmentPathCalldata tag' clientId' sequence') :
    UInt8.ofNat tag = UInt8.ofNat tag' ∧ clientId = clientId' ∧ sequence = sequence' := by
  rw [commitmentPathCalldata_eq, commitmentPathCalldata_eq] at h
  obtain ⟨hfront, hseq⟩ := List.append_inj' h (by simp)
  obtain ⟨hclient, htag⟩ := List.append_inj' hfront rfl
  exact ⟨List.singleton_inj.mp htag, hclient, UInt64.toBeBytes_inj hseq⟩

variable (H : Hashes)

/-- `packetCommitmentKeyCalldata` and its two siblings: the Keccak-256 of the path. -/
def commitmentKeyCalldata (tag : ℕ) (clientId : Bytes) (sequence : UInt64) : Bytes :=
  H.keccak256 (commitmentPathCalldata tag clientId sequence)

/-- `packetCommitmentKeyCalldata`. -/
def packetCommitmentKeyCalldata (clientId : Bytes) (sequence : UInt64) : Bytes :=
  commitmentKeyCalldata H 1 clientId sequence

/-- `packetAcknowledgementCommitmentKeyCalldata`. -/
def packetAcknowledgementCommitmentKeyCalldata (clientId : Bytes) (sequence : UInt64) : Bytes :=
  commitmentKeyCalldata H 3 clientId sequence

/-- `packetReceiptCommitmentKeyCalldata`. -/
def packetReceiptCommitmentKeyCalldata (clientId : Bytes) (sequence : UInt64) : Bytes :=
  commitmentKeyCalldata H 2 clientId sequence

section Keys

variable {H} (hinj : Function.Injective H.keccak256)
include hinj

/-- With an injective Keccak-256, a key determines its tag, its client id and its sequence. -/
theorem commitmentKeyCalldata_inj {tag tag' : ℕ} {clientId clientId' : Bytes} {sequence sequence' : UInt64}
    (h : commitmentKeyCalldata H tag clientId sequence = commitmentKeyCalldata H tag' clientId' sequence') :
    UInt8.ofNat tag = UInt8.ofNat tag' ∧ clientId = clientId' ∧ sequence = sequence' :=
  commitmentPathCalldata_inj (hinj h)

theorem packetCommitmentKeyCalldata_inj {c c' : Bytes} {q q' : UInt64}
    (h : packetCommitmentKeyCalldata H c q = packetCommitmentKeyCalldata H c' q') : c = c' ∧ q = q' :=
  (commitmentKeyCalldata_inj hinj h).2

theorem packetAcknowledgementCommitmentKeyCalldata_inj {c c' : Bytes} {q q' : UInt64}
    (h : packetAcknowledgementCommitmentKeyCalldata H c q = packetAcknowledgementCommitmentKeyCalldata H c' q') :
    c = c' ∧ q = q' :=
  (commitmentKeyCalldata_inj hinj h).2

theorem packetCommitmentKey_ne_receiptKey (c d : Bytes) (q q' : UInt64) :
    packetCommitmentKeyCalldata H c q ≠ packetReceiptCommitmentKeyCalldata H d q' := fun h =>
  absurd (commitmentKeyCalldata_inj hinj h).1 (by decide)

theorem packetCommitmentKey_ne_acknowledgementKey (c d : Bytes) (q q' : UInt64) :
    packetCommitmentKeyCalldata H c q ≠ packetAcknowledgementCommitmentKeyCalldata H d q' := fun h =>
  absurd (commitmentKeyCalldata_inj hinj h).1 (by decide)

theorem receiptKey_ne_acknowledgementKey (c d : Bytes) (q q' : UInt64) :
    packetReceiptCommitmentKeyCalldata H c q ≠ packetAcknowledgementCommitmentKeyCalldata H d q' := fun h =>
  absurd (commitmentKeyCalldata_inj hinj h).1 (by decide)

end Keys

/-- `hashPayload`. -/
def hashPayload (data : Payload) : Bytes :=
  H.sha256 (Abi.encodePacked [.raw (H.sha256 data.sourcePort), .raw (H.sha256 data.destPort),
    .raw (H.sha256 data.version), .raw (H.sha256 data.encoding), .raw (H.sha256 data.value)])

/-- `packetCommitmentBytes32`. -/
def packetCommitmentBytes32 (packet : Packet) : Bytes :=
  let appBytes := packet.payloads.foldl
    (fun appBytes payload => Abi.encodePacked [.raw appBytes, .raw (hashPayload H payload)]) []
  H.sha256 (Abi.encodePacked [.uint 1 2, .raw (H.sha256 packet.destClient),
    .raw (H.sha256 (Abi.encodePacked [.uint 8 packet.timeoutTimestamp.toNat])), .raw (H.sha256 appBytes)])

/-- `packetAcknowledgementCommitmentBytes32`. -/
def packetAcknowledgementCommitmentBytes32 (acks : List Bytes) : Except IICS24HostErrors Bytes :=
  if 0 < acks.length then
    let ackBytes := acks.foldl (fun ackBytes ack => Abi.encodePacked [.raw ackBytes, .raw (H.sha256 ack)]) []
    .ok (H.sha256 (Abi.encodePacked [.uint 1 2, .raw ackBytes]))
  else .error .NoAcknowledgements

theorem packetAcknowledgementCommitmentBytes32_of_length_pos {acks : List Bytes} (h : 0 < acks.length) :
    packetAcknowledgementCommitmentBytes32 H acks =
      .ok (H.sha256 (Abi.encodePacked [.uint 1 2,
        .raw (acks.foldl (fun ackBytes ack => Abi.encodePacked [.raw ackBytes, .raw (H.sha256 ack)]) [])])) := by
  simp [packetAcknowledgementCommitmentBytes32, h]

/-- A payload as `abi.encode` sees it. -/
def Payload.toAbi (p : Payload) : Abi.Value :=
  .tuple [.bytes p.sourcePort, .bytes p.destPort, .bytes p.version, .bytes p.encoding, .bytes p.value]

/-- A packet as `abi.encode` sees it. -/
def Packet.toAbi (p : Packet) : Abi.Value :=
  .tuple [.uint p.sequence.toNat, .bytes p.sourceClient, .bytes p.destClient, .uint p.timeoutTimestamp.toNat,
    .array (p.payloads.map Payload.toAbi)]

/-- `packetReceiptCommitmentBytes32`: the Keccak-256 of `abi.encode(packet)`. -/
def packetReceiptCommitmentBytes32 (packet : Packet) : Bytes :=
  H.keccak256 (Abi.encode [Packet.toAbi packet])

/-- `prefixedPath`: the path appended, packed, to the last element of the prefix. -/
def prefixedPath (merklePrefix : List Bytes) (path : Bytes) : Except IICS24HostErrors (List Bytes) :=
  if 0 < merklePrefix.length then
    .ok (merklePrefix.set (merklePrefix.length - 1)
      (Abi.encodePacked [.raw (merklePrefix.getD (merklePrefix.length - 1) []), .raw path]))
  else .error (.InvalidMerklePrefix merklePrefix)

theorem prefixedPath_of_length_pos {merklePrefix : List Bytes} (path : Bytes) (h : 0 < merklePrefix.length) :
    prefixedPath merklePrefix path = .ok (merklePrefix.set (merklePrefix.length - 1)
      (Abi.encodePacked [.raw (merklePrefix.getD (merklePrefix.length - 1) []), .raw path])) := by
  simp [prefixedPath, h]

end ICS24Host
