/-
# The Solidity IBC store

`IBCStoreUpgradeable` keeps one `bytes32 → bytes32` mapping for the three
kinds of commitment (packet, receipt, acknowledgement), each under the
Keccak-256 of its ICS24 path, and a `uint64` send counter per client. An
entry is "absent" when it is the zero word, and a delete writes the zero word.

Each store function touches one entry, at the key of its own path, or one
counter: the spec lemmas (`commitPacket_ok` and its siblings) say
so, and every invariant of the router is built from them.

Key definitions: `IBCStore.IBCStoreStorage`, `IBCStore.nextSequenceSend`,
`IBCStore.commitPacket`, `IBCStore.checkAndDeletePacketCommitment`,
`IBCStore.setPacketReceipt`, `IBCStore.commitPacketAcknowledgement`.
-/
import IbcEureka.Solidity.ICS24Host

/-- An EVM address. -/
abbrev Address := BitVec 160

/-- The custom errors (and panics) a call into the router can revert with. -/
inductive Revert
  | IBCAppNotFound (portId : Bytes)
  | IBCUnauthorizedSender (sender : Address)
  | IBCInvalidTimeoutTimestamp (timeoutTimestamp : ℕ) (comparedTimestamp : ℕ)
  | IBCInvalidTimeoutDuration (maxTimeoutDuration : ℕ) (timeoutDuration : ℕ)
  | IBCMultiPayloadPacketNotSupported
  | IBCInvalidCounterparty (expected : Bytes) (actual : Bytes)
  | IBCAsyncAcknowledgementNotSupported
  | IBCErrorUniversalAcknowledgement
  | IBCFailedCallback
  | IBCPacketCommitmentAlreadyExists (path : Bytes)
  | IBCPacketCommitmentMismatch (stored : Bytes) (actual : Bytes)
  | IBCPacketReceiptMismatch (stored : Bytes) (actual : Bytes)
  | IBCPacketAcknowledgementAlreadyExists (path : Bytes)
  | IBCCounterpartyClientNotFound (clientId : Bytes)
  | IBCClientNotFound (clientId : Bytes)
  | IBCClientAlreadyExists (clientId : Bytes)
  | IBCInvalidClientId (clientId : Bytes)
  | IBCInvalidPortIdentifier (portId : Bytes)
  | IBCPortAlreadyExists (portId : Bytes)
  /-- `AccessManagedUnauthorized`: the access manager refused the caller. -/
  | AccessManagedUnauthorized
  /-- `ReentrancyGuardReentrantCall`. -/
  | ReentrancyGuardReentrantCall
  /-- A revert of an external contract: a light client or an application. -/
  | ExternalRevert
  /-- `Panic(0x11)`: checked arithmetic overflowed. -/
  | ArithmeticOverflow
  | ICS24 (e : ICS24Host.IICS24HostErrors)
  deriving DecidableEq, Repr

namespace IBCStore

/-- `IBCStoreStorage`. -/
structure IBCStoreStorage where
  commitments : Bytes → Bytes
  prevSequenceSends : Bytes → UInt64

/-- The storage of a freshly deployed store: every entry absent, every counter zero. -/
def IBCStoreStorage.init : IBCStoreStorage := ⟨fun _ => zeroWord, fun _ => 0⟩

/-- `$.commitments[path] = value`. -/
def IBCStoreStorage.setCommitment (st : IBCStoreStorage) (path value : Bytes) : IBCStoreStorage :=
  { st with commitments := Function.update st.commitments path value }

@[simp] theorem IBCStoreStorage.setCommitment_commitments (st : IBCStoreStorage) (path value : Bytes) :
    (st.setCommitment path value).commitments = Function.update st.commitments path value := rfl

@[simp] theorem IBCStoreStorage.setCommitment_prevSequenceSends (st : IBCStoreStorage) (path value : Bytes) :
    (st.setCommitment path value).prevSequenceSends = st.prevSequenceSends := rfl

variable (H : Hashes)

/-- `nextSequenceSend`: `++prevSequenceSends[clientId]`, which reverts on overflow. -/
def nextSequenceSend (st : IBCStoreStorage) (clientId : Bytes) : Except Revert (IBCStoreStorage × UInt64) :=
  if (st.prevSequenceSends clientId).toNat + 1 < 2 ^ 64 then
    let sequence := st.prevSequenceSends clientId + 1
    .ok (⟨st.commitments, Function.update st.prevSequenceSends clientId sequence⟩, sequence)
  else .error .ArithmeticOverflow

/-- `commitPacket`: write the packet commitment at its key, which must be absent. -/
def commitPacket (st : IBCStoreStorage) (packet : Packet) : Except Revert IBCStoreStorage :=
  let path := ICS24Host.packetCommitmentKeyCalldata H packet.sourceClient packet.sequence
  if st.commitments path = zeroWord then
    .ok (st.setCommitment path (ICS24Host.packetCommitmentBytes32 H packet))
  else .error (.IBCPacketCommitmentAlreadyExists
    (ICS24Host.packetCommitmentPathCalldata packet.sourceClient packet.sequence))

/-- `checkAndDeletePacketCommitment`: false if the commitment is absent; otherwise it must be
the packet's, and it is deleted. -/
def checkAndDeletePacketCommitment (st : IBCStoreStorage) (packet : Packet) :
    Except Revert (IBCStoreStorage × Bool) :=
  let path := ICS24Host.packetCommitmentKeyCalldata H packet.sourceClient packet.sequence
  let commitment := st.commitments path
  if commitment = zeroWord then .ok (st, false)
  else if commitment = ICS24Host.packetCommitmentBytes32 H packet then
    .ok (st.setCommitment path zeroWord, true)
  else .error (.IBCPacketCommitmentMismatch commitment (ICS24Host.packetCommitmentBytes32 H packet))

/-- `setPacketReceipt`: false if the same receipt is already there; otherwise the entry must
be absent, and the receipt is written. -/
def setPacketReceipt (st : IBCStoreStorage) (packet : Packet) : Except Revert (IBCStoreStorage × Bool) :=
  let path := ICS24Host.packetReceiptCommitmentKeyCalldata H packet.destClient packet.sequence
  let receipt := ICS24Host.packetReceiptCommitmentBytes32 H packet
  let storedReceipt := st.commitments path
  if storedReceipt = receipt then .ok (st, false)
  else if storedReceipt = zeroWord then
    .ok (st.setCommitment path receipt, true)
  else .error (.IBCPacketReceiptMismatch storedReceipt receipt)

/-- `commitPacketAcknowledgement`: write the acknowledgement commitment, which must be absent. -/
def commitPacketAcknowledgement (st : IBCStoreStorage) (packet : Packet) (acks : List Bytes) :
    Except Revert IBCStoreStorage := do
  let path := ICS24Host.packetAcknowledgementCommitmentKeyCalldata H packet.destClient packet.sequence
  if st.commitments path = zeroWord then
    let commitment ← (ICS24Host.packetAcknowledgementCommitmentBytes32 H acks).mapError .ICS24
    pure (st.setCommitment path commitment)
  else throw (.IBCPacketAcknowledgementAlreadyExists
    (ICS24Host.packetAcknowledgementCommitmentPathCalldata packet.destClient packet.sequence))

variable {H}

theorem nextSequenceSend_ok {st st' : IBCStoreStorage} {clientId : Bytes} {sequence : UInt64}
    (h : nextSequenceSend st clientId = .ok (st', sequence)) :
    (st.prevSequenceSends clientId).toNat + 1 < 2 ^ 64 ∧ sequence = st.prevSequenceSends clientId + 1 ∧
      st' = ⟨st.commitments, Function.update st.prevSequenceSends clientId sequence⟩ := by
  unfold nextSequenceSend at h
  split at h
  · cases h
    exact ⟨‹_›, rfl, rfl⟩
  · cases h

theorem commitPacket_ok {st st' : IBCStoreStorage} {packet : Packet} (h : commitPacket H st packet = .ok st') :
    st.commitments (ICS24Host.packetCommitmentKeyCalldata H packet.sourceClient packet.sequence) = zeroWord ∧
      st' = st.setCommitment (ICS24Host.packetCommitmentKeyCalldata H packet.sourceClient packet.sequence)
        (ICS24Host.packetCommitmentBytes32 H packet) := by
  unfold commitPacket at h
  dsimp only at h
  split at h
  · cases h
    exact ⟨‹_›, rfl⟩
  · cases h

theorem checkAndDeletePacketCommitment_ok {st st' : IBCStoreStorage} {packet : Packet} {found : Bool}
    (h : checkAndDeletePacketCommitment H st packet = .ok (st', found)) :
    (st.commitments (ICS24Host.packetCommitmentKeyCalldata H packet.sourceClient packet.sequence) = zeroWord ∧
        st' = st ∧ found = false) ∨
      (st.commitments (ICS24Host.packetCommitmentKeyCalldata H packet.sourceClient packet.sequence) ≠ zeroWord ∧
        st.commitments (ICS24Host.packetCommitmentKeyCalldata H packet.sourceClient packet.sequence) =
          ICS24Host.packetCommitmentBytes32 H packet ∧
        st' = st.setCommitment (ICS24Host.packetCommitmentKeyCalldata H packet.sourceClient packet.sequence)
          zeroWord ∧ found = true) := by
  unfold checkAndDeletePacketCommitment at h
  dsimp only at h
  split at h
  · cases h
    exact .inl ⟨‹_›, rfl, rfl⟩
  · split at h
    · cases h
      exact .inr ⟨‹_›, ‹_›, rfl, rfl⟩
    · cases h

theorem setPacketReceipt_ok {st st' : IBCStoreStorage} {packet : Packet} {fresh : Bool}
    (h : setPacketReceipt H st packet = .ok (st', fresh)) :
    (st.commitments (ICS24Host.packetReceiptCommitmentKeyCalldata H packet.destClient packet.sequence) =
        ICS24Host.packetReceiptCommitmentBytes32 H packet ∧ st' = st ∧ fresh = false) ∨
      (st.commitments (ICS24Host.packetReceiptCommitmentKeyCalldata H packet.destClient packet.sequence) =
          zeroWord ∧
        st' = st.setCommitment (ICS24Host.packetReceiptCommitmentKeyCalldata H packet.destClient packet.sequence)
          (ICS24Host.packetReceiptCommitmentBytes32 H packet) ∧ fresh = true) := by
  unfold setPacketReceipt at h
  dsimp only at h
  split at h
  · cases h
    exact .inl ⟨‹_›, rfl, rfl⟩
  · split at h
    · cases h
      exact .inr ⟨‹_›, rfl, rfl⟩
    · cases h

theorem commitPacketAcknowledgement_ok {st st' : IBCStoreStorage} {packet : Packet} {acks : List Bytes}
    (h : commitPacketAcknowledgement H st packet acks = .ok st') :
    st.commitments (ICS24Host.packetAcknowledgementCommitmentKeyCalldata H packet.destClient packet.sequence) =
        zeroWord ∧
      ∃ commitment, ICS24Host.packetAcknowledgementCommitmentBytes32 H acks = .ok commitment ∧
        st' = st.setCommitment
          (ICS24Host.packetAcknowledgementCommitmentKeyCalldata H packet.destClient packet.sequence) commitment := by
  unfold commitPacketAcknowledgement at h
  dsimp only at h
  split at h
  · cases hc : ICS24Host.packetAcknowledgementCommitmentBytes32 H acks with
    | error e => simp [hc, Except.mapError, bind, Except.bind] at h
    | ok c =>
      simp only [hc, Except.mapError, bind, Except.bind, pure, Except.pure, Except.ok.injEq] at h
      exact ⟨‹_›, c, rfl, h.symm⟩
  · cases h

end IBCStore
