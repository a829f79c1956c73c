/-
# ICS24 paths and commitments on Solana

`solana_ibc_types::ics24`: the paths under which a router stores packet
commitments, receipts and acknowledgements (`client_id || tag || sequence`,
the sequence big-endian), their keys (the Keccak-256 of the path), and the
32-byte values stored under them. The packet commitment hashes the
destination client, the timeout and one SHA-256 per payload behind the version
byte; the receipt commitment hashes the borsh serialization of the whole
packet.

Key definitions: `Ics24.commitmentPath`, `Ics24.packetCommitmentBytes32`,
`Ics24.packetAcknowledgementCommitmentBytes32`,
`Ics24.packetReceiptCommitmentBytes32`, `Ics24.prefixedPath`.
-/
import IbcEureka.Packet
import IbcEureka.Lib.Borsh
import IbcEureka.Lib.Blocks

/-- `solana_sha256_hasher::hashv`: the SHA-256 of the slices laid end to end. -/
def Hashes.sha256v (H : Hashes) (parts : List Bytes) : Bytes := H.sha256 parts.flatten

/-- Borsh serialization of a `Payload`: its five fields in order. -/
def Payload.tryToVec (payload : Payload) : Option Bytes := do
  let sourcePort ← Borsh.bytes payload.sourcePort
  let destPort ← Borsh.bytes payload.destPort
  let version ← Borsh.bytes payload.version
  let encoding ← Borsh.bytes payload.encoding
  let value ← Borsh.bytes payload.value
  pure (sourcePort ++ destPort ++ version ++ encoding ++ value)

/-- Borsh serialization of a `Packet` (`try_to_vec`). -/
def Packet.tryToVec (packet : Packet) : Option Bytes := do
  let sourceClient ← Borsh.bytes packet.sourceClient
  let destClient ← Borsh.bytes packet.destClient
  let payloads ← Borsh.vec Payload.tryToVec packet.payloads
  pure (packet.sequence.toLeBytes ++ sourceClient ++ destClient ++
    packet.timeoutTimestamp.toLeBytes ++ payloads)

namespace Ics24

/-- `IBC_VERSION`, the first byte of every commitment preimage. -/
def ibcVersion : UInt8 := 2

/-- `UNIVERSAL_ERROR_ACK`, the acknowledgement an application may not write itself. -/
def universalErrorAck : Bytes :=
  [0x47, 0x74, 0xd4, 0xa5, 0x75, 0x99, 0x3f, 0x96, 0x3b, 0x1c, 0x06, 0x57, 0x37, 0x36, 0x61, 0x7a,
   0x45, 0x7a, 0xbe, 0xf8, 0x58, 0x91, 0x78, 0xdb, 0x8d, 0x10, 0xc9, 0x4b, 0x4a, 0xb5, 0x11, 0xab]

/-- `Ics24Error`. -/
inductive Ics24Error
  | NoAcknowledgements
  | EmptyMerklePrefix
  | PacketSerializationError
  deriving DecidableEq, Repr

/-- The three path functions differ only in their tag byte:
`client_id || tag || sequence (big-endian)`. -/
def commitmentPath (tag : UInt8) (clientId : Bytes) (sequence : UInt64) : Bytes :=
  clientId ++ [tag] ++ sequence.toBeBytes

/-- A path gives back its tag, its client id and its sequence. -/
theorem commitmentPath_inj {tag tag' : UInt8} {clientId clientId' : Bytes} {sequence sequence' : UInt64}
    (h : commitmentPath tag clientId sequence = commitmentPath tag' clientId' sequence') :
    tag = tag' ∧ clientId = clientId' ∧ sequence = sequence' := by
  unfold commitmentPath at h
  obtain ⟨hfront, hseq⟩ := List.append_inj' h (by simp)
  obtain ⟨hc, htag⟩ := List.append_inj' hfront rfl
  exact ⟨List.singleton_inj.mp htag, hc, UInt64.toBeBytes_inj hseq⟩

/-- `packet_commitment_path`. -/
def packetCommitmentPath (clientId : Bytes) (sequence : UInt64) : Bytes :=
  commitmentPath 1 clientId sequence

/-- `packet_acknowledgement_commitment_path`. -/
def packetAcknowledgementCommitmentPath (clientId : Bytes) (sequence : UInt64) : Bytes :=
  commitmentPath 3 clientId sequence

/-- `packet_receipt_commitment_path`. -/
def packetReceiptCommitmentPath (clientId : Bytes) (sequence : UInt64) : Bytes :=
  commitmentPath 2 clientId sequence

/-- The path of each kind of entry. -/
def kindPath : PathKind → Bytes → UInt64 → Bytes
  | .commitment => packetCommitmentPath
  | .receipt => packetReceiptCommitmentPath
  | .acknowledgement => packetAcknowledgementCommitmentPath

theorem kindPath_eq (kind : PathKind) (clientId : Bytes) (sequence : UInt64) :
    kindPath kind clientId sequence = commitmentPath kind.tag clientId sequence := by
  cases kind <;> rfl

/-- A path gives back the kind of its entry, its client id and its sequence. -/
theorem kindPath_inj {kind kind' : PathKind} {clientId clientId' : Bytes} {sequence sequence' : UInt64}
    (h : kindPath kind clientId sequence = kindPath kind' clientId' sequence') :
    kind = kind' ∧ clientId = clientId' ∧ sequence = sequence' := by
  rw [kindPath_eq, kindPath_eq] at h
  obtain ⟨htag, hclient, hseq⟩ := commitmentPath_inj h
  exact ⟨PathKind.tag_injective htag, hclient, hseq⟩

variable (H : Hashes)

/-- `packet_commitment_key` and its two siblings: the Keccak-256 of the path. -/
def commitmentKey (tag : UInt8) (clientId : Bytes) (sequence : UInt64) : Bytes :=
  H.keccak256 (commitmentPath tag clientId sequence)

/-- `packet_commitment_key`. -/
def packetCommitmentKey (clientId : Bytes) (sequence : UInt64) : Bytes :=
  commitmentKey H 1 clientId sequence

/-- `packet_acknowledgement_commitment_key`. -/
def packetAcknowledgementCommitmentKey (clientId : Bytes) (sequence : UInt64) : Bytes :=
  commitmentKey H 3 clientId sequence

/-- `packet_receipt_commitment_key`. -/
def packetReceiptCommitmentKey (clientId : Bytes) (sequence : UInt64) : Bytes :=
  commitmentKey H 2 clientId sequence

/-- `hash_payload`: the SHA-256 of the five field digests. -/
def hashPayload (payload : Payload) : Bytes :=
  H.sha256 (H.sha256 payload.sourcePort ++ H.sha256 payload.destPort ++ H.sha256 payload.version ++
    H.sha256 payload.encoding ++ H.sha256 payload.value)

/-- `packet_commitment_bytes32`. -/
def packetCommitmentBytes32 (packet : Packet) : Bytes :=
  -- the loop extending app_bytes with each payload's hash
  let appBytes := packet.payloads.foldl (fun acc payload => acc ++ hashPayload H payload) []
  H.sha256v [[ibcVersion], H.sha256 packet.destClient, H.sha256 packet.timeoutTimestamp.toBeBytes,
    H.sha256 appBytes]

/-! ## What the packet commitment binds

A SHA-256 digest is 32 bytes, so every string the packet commitment hashes is
read back digest by digest. With no collision among the strings hashed for two
packets, equal commitments mean equal destination clients, timeouts and
payload lists; the sequence and the source client are not committed to. -/

/-- The strings `hash_payload` passes to SHA-256: the five fields, then their digests end to end. -/
def hashPayloadInputs (payload : Payload) : List Bytes :=
  [payload.sourcePort, payload.destPort, payload.version, payload.encoding, payload.value,
    H.sha256 payload.sourcePort ++ H.sha256 payload.destPort ++ H.sha256 payload.version ++
      H.sha256 payload.encoding ++ H.sha256 payload.value]

/-- The strings `packet_commitment_bytes32` passes to SHA-256. -/
def packetCommitmentInputs (packet : Packet) : List Bytes :=
  let appBytes := packet.payloads.foldl (fun acc payload => acc ++ hashPayload H payload) []
  [[ibcVersion], H.sha256 packet.destClient, H.sha256 packet.timeoutTimestamp.toBeBytes, H.sha256 appBytes].flatten ::
    packet.destClient :: packet.timeoutTimestamp.toBeBytes :: appBytes :: packet.payloads.flatMap (hashPayloadInputs H)

theorem mem_packetCommitmentInputs_of_payload {packet : Packet} {payload : Payload} {x : Bytes}
    (hpayload : payload ∈ packet.payloads) (hx : x ∈ hashPayloadInputs H payload) :
    x ∈ packetCommitmentInputs H packet := by
  simp only [packetCommitmentInputs, List.mem_cons, List.mem_flatMap]
  exact Or.inr (Or.inr (Or.inr (Or.inr ⟨payload, hpayload, hx⟩)))

theorem packetCommitmentBytes32_congr {p q : Packet} (hdest : p.destClient = q.destClient)
    (htimeout : p.timeoutTimestamp = q.timeoutTimestamp) (hpayloads : p.payloads = q.payloads) :
    packetCommitmentBytes32 H p = packetCommitmentBytes32 H q := by
  unfold packetCommitmentBytes32
  rw [hdest, htimeout, hpayloads]

section Binding

variable {H} (hlen : ∀ b, (H.sha256 b).length = 32)
include hlen

/-- Digests end to end are read back digest by digest. -/
theorem digests_inj {l l' : List Bytes} (h : (l.map H.sha256).flatten = (l'.map H.sha256).flatten) :
    l.map H.sha256 = l'.map H.sha256 :=
  Blocks.uniquelyDecodable_of_length (by norm_num : 0 < 32) _ _ (by simp [hlen]) (by simp [hlen]) h

variable {S : Set Bytes} (hinj : Set.InjOn H.sha256 S)
include hinj

/-- `hash_payload` binds the five fields of a payload. -/
theorem hashPayload_inj {a b : Payload} (ha : ∀ x ∈ hashPayloadInputs H a, x ∈ S)
    (hb : ∀ x ∈ hashPayloadInputs H b, x ∈ S) (h : hashPayload H a = hashPayload H b) : a = b := by
  -- SHA-256 is injective on every string hashed here
  have hfield : ∀ {x y}, x ∈ hashPayloadInputs H a → y ∈ hashPayloadInputs H b → H.sha256 x = H.sha256 y → x = y :=
    fun hx hy hxy => hinj (ha _ hx) (hb _ hy) hxy
  have hcat := hfield (by simp [hashPayloadInputs]) (by simp [hashPayloadInputs]) h
  have hdigests : [a.sourcePort, a.destPort, a.version, a.encoding, a.value].map H.sha256 =
      [b.sourcePort, b.destPort, b.version, b.encoding, b.value].map H.sha256 :=
    digests_inj hlen (by simpa using hcat)
  simp only [List.map_cons, List.map_nil, List.cons.injEq, and_true] at hdigests
  obtain ⟨h₁, h₂, h₃, h₄, h₅⟩ := hdigests
  cases a
  cases b
  simp only [Payload.mk.injEq]
  exact ⟨hfield (by simp [hashPayloadInputs]) (by simp [hashPayloadInputs]) h₁,
    hfield (by simp [hashPayloadInputs]) (by simp [hashPayloadInputs]) h₂,
    hfield (by simp [hashPayloadInputs]) (by simp [hashPayloadInputs]) h₃,
    hfield (by simp [hashPayloadInputs]) (by simp [hashPayloadInputs]) h₄,
    hfield (by simp [hashPayloadInputs]) (by simp [hashPayloadInputs]) h₅⟩

/-- `packet_commitment_bytes32` binds the destination client, the timeout and every field of
every payload, in order. -/
theorem packetCommitmentBytes32_inj {p q : Packet} (hp : ∀ x ∈ packetCommitmentInputs H p, x ∈ S)
    (hq : ∀ x ∈ packetCommitmentInputs H q, x ∈ S) (h : packetCommitmentBytes32 H p = packetCommitmentBytes32 H q) :
    p.destClient = q.destClient ∧ p.timeoutTimestamp = q.timeoutTimestamp ∧ p.payloads = q.payloads := by
  have hstr : ∀ {x y}, x ∈ packetCommitmentInputs H p → y ∈ packetCommitmentInputs H q →
      H.sha256 x = H.sha256 y → x = y :=
    fun hx hy hxy => hinj (hp _ hx) (hq _ hy) hxy
  unfold packetCommitmentBytes32 Hashes.sha256v at h
  have hpre := hstr (by simp [packetCommitmentInputs]) (by simp [packetCommitmentInputs]) h
  -- after the version byte come three digests
  simp only [List.flatten_cons, List.flatten_nil, List.append_nil, List.singleton_append, List.cons.injEq,
    true_and] at hpre
  have hdigests : [p.destClient, p.timeoutTimestamp.toBeBytes,
        p.payloads.foldl (fun acc payload => acc ++ hashPayload H payload) []].map H.sha256 =
      [q.destClient, q.timeoutTimestamp.toBeBytes,
        q.payloads.foldl (fun acc payload => acc ++ hashPayload H payload) []].map H.sha256 :=
    digests_inj hlen (by simpa using hpre)
  simp only [List.map_cons, List.map_nil, List.cons.injEq, and_true] at hdigests
  obtain ⟨hdest, htimeout, happ⟩ := hdigests
  -- the payload digests end to end, read back one by one
  have happBytes := hstr (by simp [packetCommitmentInputs]) (by simp [packetCommitmentInputs]) happ
  rw [← List.flatMap_eq_foldl, ← List.flatMap_eq_foldl, List.flatMap_def, List.flatMap_def] at happBytes
  have hpayloadDigests : p.payloads.map (hashPayload H) = q.payloads.map (hashPayload H) :=
    Blocks.uniquelyDecodable_of_length (by norm_num : 0 < 32) _ _ (by simp [hashPayload, hlen])
      (by simp [hashPayload, hlen]) happBytes
  refine ⟨hstr (by simp [packetCommitmentInputs]) (by simp [packetCommitmentInputs]) hdest,
    UInt64.toBeBytes_inj (hstr (by simp [packetCommitmentInputs]) (by simp [packetCommitmentInputs]) htimeout),
    Blocks.eq_of_map_eq ?_ hpayloadDigests⟩
  intro a ha b hb hab
  exact hashPayload_inj hlen hinj (fun x hx => hp x (mem_packetCommitmentInputs_of_payload H ha hx))
    (fun x hx => hq x (mem_packetCommitmentInputs_of_payload H hb hx)) hab

end Binding

/-- `packet_acknowledgement_commitment_bytes32`. -/
def packetAcknowledgementCommitmentBytes32 (acks : List Bytes) : Except Ics24Error Bytes :=
  if acks.isEmpty then .error .NoAcknowledgements
  else
    let ackBytes := acks.foldl (fun acc ack => acc ++ H.sha256 ack) []
    .ok (H.sha256v [[ibcVersion], ackBytes])

theorem packetAcknowledgementCommitmentBytes32_of_ne_nil {acks : List Bytes} (h : acks ≠ []) :
    packetAcknowledgementCommitmentBytes32 H acks =
      .ok (H.sha256v [[ibcVersion], acks.foldl (fun acc ack => acc ++ H.sha256 ack) []]) := by
  simp [packetAcknowledgementCommitmentBytes32, h]

/-- `packet_receipt_commitment_bytes32`: the Keccak-256 of the borsh packet. -/
def packetReceiptCommitmentBytes32 (packet : Packet) : Except Ics24Error Bytes :=
  match packet.tryToVec with
  | some packetBytes => .ok (H.keccak256 packetBytes)
  | none => .error .PacketSerializationError

/-- `prefixed_path`: the path appended to the last element of the prefix. -/
def prefixedPath (merklePrefix : List Bytes) (path : Bytes) : Except Ics24Error (List Bytes) :=
  if merklePrefix.isEmpty then .error .EmptyMerklePrefix
  else .ok (merklePrefix.modify (merklePrefix.length - 1) (· ++ path))

theorem prefixedPath_of_ne_nil {merklePrefix : List Bytes} (path : Bytes) (h : merklePrefix ≠ []) :
    prefixedPath merklePrefix path = .ok (merklePrefix.modify (merklePrefix.length - 1) (· ++ path)) := by
  simp [prefixedPath, h]

end Ics24
