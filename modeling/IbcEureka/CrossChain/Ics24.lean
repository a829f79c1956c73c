/-
# The two ICS24 implementations agree

A packet sent from Solana is proved on Ethereum against the path and the
commitment the Solidity `ICS24Host` computes, and the other way round; so the
two libraries must build the same bytes. They do, for every hash function:
the Solidity `abi.encodePacked` of `bytes32` digests, `uint8` tags and the
assembly `uint64ToBigEndian` lays out exactly the bytes that the Rust code
pushes and extends, in the same order.

So what one commitment binds the other binds: with 32-byte digests and no
SHA-256 collision among the strings hashed, a packet commitment determines the
destination client, the timeout and the payloads, and a path determines its
kind, client id and sequence (`ics24_commitment_binding`).

Key theorems: `CrossChain.hashPayload_agree`, `CrossChain.commitmentPath_agree`,
`CrossChain.ics24_commitment_binding`.
-/
import IbcEureka.Solana.Ics24
import IbcEureka.Solidity.ICS24Host

namespace CrossChain

variable (H : Hashes)

/-- The Solidity loops that grow a buffer by `abi.encodePacked(buf, x)` are the Rust
loops that extend it. -/
theorem foldl_encodePacked {α : Type} (f : α → Bytes) (xs : List α) (init : Bytes) :
    xs.foldl (fun acc x => Abi.encodePacked [.raw acc, .raw (f x)]) init =
      xs.foldl (fun acc x => acc ++ f x) init := by
  simp

theorem hashPayload_agree (payload : Payload) :
    ICS24Host.hashPayload H payload = Ics24.hashPayload H payload := by
  simp [ICS24Host.hashPayload, Ics24.hashPayload]

theorem commitmentPath_agree (tag : UInt8) (clientId : Bytes) (sequence : UInt64) :
    Ics24.commitmentPath tag clientId sequence =
      ICS24Host.commitmentPathCalldata tag.toNat clientId sequence := by
  rw [ICS24Host.commitmentPathCalldata_eq, Ics24.commitmentPath, UInt8.ofNat_toNat]

theorem packetCommitmentBytes32_agree (packet : Packet) :
    Ics24.packetCommitmentBytes32 H packet = ICS24Host.packetCommitmentBytes32 H packet := by
  have htimeout : Abi.encodePacked [.uint 8 packet.timeoutTimestamp.toNat] =
      packet.timeoutTimestamp.toBeBytes := by
    simp [UInt64.toBeBytes]
  simp only [Ics24.packetCommitmentBytes32, ICS24Host.packetCommitmentBytes32, foldl_encodePacked,
    hashPayload_agree, htimeout, Hashes.sha256v]
  rfl

theorem packetAcknowledgementCommitmentBytes32_agree {acks : List Bytes} (hacks : acks ≠ []) :
    ∃ c, Ics24.packetAcknowledgementCommitmentBytes32 H acks = .ok c ∧
      ICS24Host.packetAcknowledgementCommitmentBytes32 H acks = .ok c := by
  have hlen : 0 < acks.length := List.length_pos_iff.mpr hacks
  refine ⟨_, Ics24.packetAcknowledgementCommitmentBytes32_of_ne_nil H hacks, ?_⟩
  rw [ICS24Host.packetAcknowledgementCommitmentBytes32_of_length_pos H hlen, foldl_encodePacked]
  rfl

theorem prefixedPath_agree {merklePrefix : List Bytes} (path : Bytes) (hne : merklePrefix ≠ []) :
    ∃ r, Ics24.prefixedPath merklePrefix path = .ok r ∧ ICS24Host.prefixedPath merklePrefix path = .ok r := by
  have hlen : 0 < merklePrefix.length := List.length_pos_iff.mpr hne
  refine ⟨_, Ics24.prefixedPath_of_ne_nil path hne, ?_⟩
  rw [ICS24Host.prefixedPath_of_length_pos path hlen, List.modify_eq_set]
  simp only [Abi.encodePacked_cons, Abi.Packed.encode_raw, Abi.encodePacked_nil, List.append_nil]
  rfl

theorem ics24_rust_eq_solidity :
    (∀ packet, Ics24.packetCommitmentBytes32 H packet = ICS24Host.packetCommitmentBytes32 H packet) ∧
    (∀ acks, acks ≠ [] → ∃ c, Ics24.packetAcknowledgementCommitmentBytes32 H acks = .ok c ∧
      ICS24Host.packetAcknowledgementCommitmentBytes32 H acks = .ok c) ∧
    (∀ clientId sequence,
      Ics24.packetCommitmentPath clientId sequence =
          ICS24Host.packetCommitmentPathCalldata clientId sequence ∧
        Ics24.packetReceiptCommitmentPath clientId sequence =
          ICS24Host.packetReceiptCommitmentPathCalldata clientId sequence ∧
        Ics24.packetAcknowledgementCommitmentPath clientId sequence =
          ICS24Host.packetAcknowledgementCommitmentPathCalldata clientId sequence) ∧
    (∀ merklePrefix path, merklePrefix ≠ [] → ∃ r, Ics24.prefixedPath merklePrefix path = .ok r ∧
      ICS24Host.prefixedPath merklePrefix path = .ok r) := by
  refine ⟨packetCommitmentBytes32_agree H, fun _ h => packetAcknowledgementCommitmentBytes32_agree H h,
    fun clientId sequence => ⟨?_, ?_, ?_⟩, fun _ path h => prefixedPath_agree path h⟩
  · exact commitmentPath_agree 1 clientId sequence
  · exact commitmentPath_agree 2 clientId sequence
  · exact commitmentPath_agree 3 clientId sequence

theorem ics24_rust_eq_solidity_one_ack :
    [[1]] ≠ ([] : List Bytes) ∧
      ∃ c, Ics24.packetAcknowledgementCommitmentBytes32 ⟨id, id⟩ [[1]] = .ok c ∧
        ICS24Host.packetAcknowledgementCommitmentBytes32 ⟨id, id⟩ [[1]] = .ok c :=
  ⟨by simp, (ics24_rust_eq_solidity ⟨id, id⟩).2.1 [[1]] (by simp)⟩

theorem kindPath_agree (kind : PathKind) (clientId : Bytes) (sequence : UInt64) :
    Ics24.kindPath kind clientId sequence = ICS24Host.kindPathCalldata kind clientId sequence := by
  cases kind
  · exact commitmentPath_agree 1 clientId sequence
  · exact commitmentPath_agree 2 clientId sequence
  · exact commitmentPath_agree 3 clientId sequence

/-- **What a packet commitment binds, and paths that never alias.** With 32-byte SHA-256
digests and no collision among the strings hashed for two packets, the two packets have the
same commitment, on either chain, exactly when they have the same destination client, timeout
and payloads; and on either chain the path of an entry gives back its kind, its client id and
its sequence. -/
theorem ics24_commitment_binding {H : Hashes} (hlen : ∀ b, (H.sha256 b).length = 32) {p q : Packet}
    (hinj : Set.InjOn H.sha256 {x | x ∈ Ics24.packetCommitmentInputs H p ∨ x ∈ Ics24.packetCommitmentInputs H q}) :
    (Ics24.packetCommitmentBytes32 H p = Ics24.packetCommitmentBytes32 H q ↔
      p.destClient = q.destClient ∧ p.timeoutTimestamp = q.timeoutTimestamp ∧ p.payloads = q.payloads) ∧
    (ICS24Host.packetCommitmentBytes32 H p = ICS24Host.packetCommitmentBytes32 H q ↔
      p.destClient = q.destClient ∧ p.timeoutTimestamp = q.timeoutTimestamp ∧ p.payloads = q.payloads) ∧
    (∀ kind kind' clientId clientId' sequence sequence',
      Ics24.kindPath kind clientId sequence = Ics24.kindPath kind' clientId' sequence' →
        kind = kind' ∧ clientId = clientId' ∧ sequence = sequence') ∧
    (∀ kind kind' clientId clientId' sequence sequence',
      ICS24Host.kindPathCalldata kind clientId sequence = ICS24Host.kindPathCalldata kind' clientId' sequence' →
        kind = kind' ∧ clientId = clientId' ∧ sequence = sequence') := by
  have hrust : Ics24.packetCommitmentBytes32 H p = Ics24.packetCommitmentBytes32 H q ↔
      p.destClient = q.destClient ∧ p.timeoutTimestamp = q.timeoutTimestamp ∧ p.payloads = q.payloads := by
    constructor
    · exact Ics24.packetCommitmentBytes32_inj hlen hinj (fun _ hx => Or.inl hx) (fun _ hx => Or.inr hx)
    · rintro ⟨hdest, htimeout, hpayloads⟩
      exact Ics24.packetCommitmentBytes32_congr H hdest htimeout hpayloads
  refine ⟨hrust, ?_, fun _ _ _ _ _ _ h => Ics24.kindPath_inj h, fun _ _ _ _ _ _ h => ?_⟩
  · rw [← packetCommitmentBytes32_agree, ← packetCommitmentBytes32_agree]
    exact hrust
  · -- the Solidity paths are the Rust ones
    rw [← kindPath_agree, ← kindPath_agree] at h
    exact Ics24.kindPath_inj h

/-- A SHA-256 whose digest is the 32-byte length of the input. -/
def lengthHashes : Hashes := ⟨fun b => Bytes.be 32 b.length, id⟩

/-- Two packets with nothing to commit to but a zero timeout, told apart by their sequences. -/
def blankPacket (sequence : UInt64) : Packet := ⟨sequence, [], [], 0, []⟩

/-- What the commitment of a blank packet hashes: the preimage of 97 bytes, the empty
destination client and payload bytes, and the eight bytes of the zero timeout. -/
theorem blankPacket_inputs (sequence : UInt64) :
    Ics24.packetCommitmentInputs lengthHashes (blankPacket sequence) =
      [[Ics24.ibcVersion] ++ Bytes.be 32 0 ++ Bytes.be 32 8 ++ Bytes.be 32 0, [], (0 : UInt64).toBeBytes, []] := by
  simp [Ics24.packetCommitmentInputs, blankPacket, lengthHashes]

theorem lengthHashes_injOn :
    Set.InjOn lengthHashes.sha256 {x | x ∈ Ics24.packetCommitmentInputs lengthHashes (blankPacket 1) ∨
      x ∈ Ics24.packetCommitmentInputs lengthHashes (blankPacket 2)} := by
  rintro x hx y hy hxy
  simp only [Set.mem_ofPred_eq, blankPacket_inputs, or_self, List.mem_cons, List.not_mem_nil, or_false] at hx hy
  -- the strings hashed have different lengths, but for the two empty ones
  have hlen := Bytes.be_inj hxy
  rcases hx with rfl | rfl | rfl | rfl <;> rcases hy with rfl | rfl | rfl | rfl <;>
    first | rfl | norm_num at hlen

theorem ics24_commitment_binding_blank :
    (Ics24.packetCommitmentBytes32 lengthHashes (blankPacket 1) = Ics24.packetCommitmentBytes32 lengthHashes (blankPacket 2) ↔
      (blankPacket 1).destClient = (blankPacket 2).destClient ∧
        (blankPacket 1).timeoutTimestamp = (blankPacket 2).timeoutTimestamp ∧
        (blankPacket 1).payloads = (blankPacket 2).payloads) ∧
    (ICS24Host.packetCommitmentBytes32 lengthHashes (blankPacket 1) =
        ICS24Host.packetCommitmentBytes32 lengthHashes (blankPacket 2) ↔
      (blankPacket 1).destClient = (blankPacket 2).destClient ∧
        (blankPacket 1).timeoutTimestamp = (blankPacket 2).timeoutTimestamp ∧
        (blankPacket 1).payloads = (blankPacket 2).payloads) ∧
    (∀ kind kind' clientId clientId' sequence sequence',
      Ics24.kindPath kind clientId sequence = Ics24.kindPath kind' clientId' sequence' →
        kind = kind' ∧ clientId = clientId' ∧ sequence = sequence') ∧
    (∀ kind kind' clientId clientId' sequence sequence',
      ICS24Host.kindPathCalldata kind clientId sequence = ICS24Host.kindPathCalldata kind' clientId' sequence' →
        kind = kind' ∧ clientId = clientId' ∧ sequence = sequence') :=
  ics24_commitment_binding (H := lengthHashes) (p := blankPacket 1) (q := blankPacket 2)
    (fun _ => Bytes.be_length 32 _) lengthHashes_injOn

end CrossChain
