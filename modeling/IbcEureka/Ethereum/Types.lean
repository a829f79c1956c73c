/-
# The Ethereum light client: its data

The `ethereum-light-client` crate follows the beacon chain by sync committee
signatures. Its client state holds the chain's parameters (genesis, slot and
period lengths, forks, the committee size) and the latest slot; a consensus
state is stored per finalized slot and holds the current sync committee and,
once known, the next one, each summarized to its pubkeys' root and aggregate
key. A relayer submits a `Header`: a light client update (an attested header
signed by a sync committee, the finalized header it commits to, and perhaps the
next sync committee with its Merkle branch) with the full committee it claims
signed it, current or next.

u64 fields are `UInt64`, so that `store_period + 1` wraps as the release build
does (no workspace profile turns overflow checks on). Divisions by the client's
slot and period lengths panic on zero (`Fault.div`). The fixed-size branches of
the source are `List.Vector`s of their depth.

SSZ tree hashing and SHA-256 are a `Hashing` parameter, the BLS verifier a
`BlsVerifier` (the source's `BlsVerify` trait); the two-chunk containers the
client hashes itself (`ForkData`, `SigningData`) are written out over SHA-256.

Key definitions: `ClientState`, `ConsensusState`, `LightClientUpdate`, `Header`,
`ClientState.computeSyncCommitteePeriodAtSlot`, `ClientState.period`.
Key theorems: `ClientState.computeSyncCommitteePeriodAtSlot_eq_ok`, `ClientState.period_le_period`.
-/
import Mathlib
import IbcEureka.Lib.Bytes
import IbcEureka.Lib.Fault

namespace EthereumLightClient

/-- `B256`: a 32-byte word. -/
abbrev B256 := Bytes

/-- `BlsPublicKey`: 48 bytes. -/
abbrev BlsPublicKey := Bytes

/-- `BlsSignature`: 96 bytes. -/
abbrev BlsSignature := Bytes

/-- `Version`: a fork version, 4 bytes. -/
abbrev Version := Bytes

/-- `B256::default()`. -/
def b256Default : B256 := List.replicate 32 0

/-- `InvalidMerkleBranch`. -/
structure InvalidMerkleBranch where
  leaf : B256
  branch : List B256
  depth : ℕ
  index : UInt64
  root : B256
  found : B256
  deriving DecidableEq, Repr

/-- `EthereumIBCError`, with the variants the modelled functions return. -/
inductive EthereumIBCError where
  | InsufficientSyncCommitteeParticipants (participants : UInt64)
  | InsufficientSyncCommitteeLength (expected found : UInt64)
  | MustBeElectraOrLater
  | InvalidMerkleBranch (e : InvalidMerkleBranch)
  | InvalidNormalizedMerkleBranch (numExtra : ℕ) (normalizedBranch : List B256)
  | FinalizedSlotIsGenesis
  | UpdateSignatureSlotMoreRecentThanCurrentSlot (currentSlot updateSignatureSlot : UInt64)
  | InvalidSlots (updateSignatureSlot updateAttestedSlot updateFinalizedSlot : UInt64)
  | InvalidSignaturePeriodWhenNextSyncCommitteeExists (signaturePeriod storedPeriod : UInt64)
  | InvalidSignaturePeriodWhenNextSyncCommitteeDoesNotExist (signaturePeriod storedPeriod : UInt64)
  | IrrelevantUpdate (updateAttestedSlot trustedFinalizedSlot updateAttestedPeriod storedPeriod : UInt64)
      (updateSyncCommitteeIsSet trustedNextSyncCommitteeIsSet : Bool)
  | NextSyncCommitteeMismatch (expected found : BlsPublicKey)
  | CurrenttSyncCommitteeMismatch (expected found : BlsPublicKey)
  | AggregatePubkeyMismatch (expected found : BlsPublicKey)
  | ExpectedCurrentSyncCommittee
  | ExpectedNextSyncCommittee
  | ExpectedNextSyncCommitteeUpdate
  | NextSyncCommitteeUnknown
  | UnexpectedNextSyncCommittee
  | BlsAggregateError (msg : String)
  | FastAggregateVerifyError (msg : String)
  | NotEnoughSignatures
  | ValidateFinalizedHeaderFailed (e : EthereumIBCError)
  | ValidateNextSyncCommitteeFailed (e : EthereumIBCError)
  | StorePeriodMustBeEqualToFinalizedPeriod
  | FailedToComputeSlotAtTimestamp (timestamp genesis secondsPerSlot genesisSlot : UInt64)
  | MisbehaviourSlotMismatch (slot₁ slot₂ : UInt64)
  | MisbehaviourStorageRootsMatch (stateRoot : B256)
  | InvalidUpdateSlot (consensusStateSlot updateFinalizedSlot : UInt64)
  | ClientAndConsensusSlotMismatch (clientStateSlot consensusStateSlot : UInt64)
  deriving DecidableEq, Repr

/-- What a function of the crate ends in when it returns no value. -/
abbrev Failure := Fault EthereumIBCError

/-! ## Forks and the client state -/

/-- `Fork`. -/
structure Fork where
  version : Version
  epoch : UInt64
  deriving DecidableEq, Repr

/-- `ForkParameters`. -/
structure ForkParameters where
  genesisForkVersion : Version
  altair : Fork
  bellatrix : Fork
  capella : Fork
  deneb : Fork
  electra : Fork
  fulu : Fork
  deriving DecidableEq, Repr

/-- `ForkParameters::compute_fork_version`: the version of the latest fork at or before `epoch`. -/
def ForkParameters.computeForkVersion (fp : ForkParameters) (epoch : UInt64) : Version :=
  if epoch ≥ fp.fulu.epoch then fp.fulu.version
  else if epoch ≥ fp.electra.epoch then fp.electra.version
  else if epoch ≥ fp.deneb.epoch then fp.deneb.version
  else if epoch ≥ fp.capella.epoch then fp.capella.version
  else if epoch ≥ fp.bellatrix.epoch then fp.bellatrix.version
  else if epoch ≥ fp.altair.epoch then fp.altair.version
  else fp.genesisForkVersion

/-- `ClientState`, with the fields the light client and the wasm contract read or write. -/
structure ClientState where
  genesisValidatorsRoot : B256
  minSyncCommitteeParticipants : UInt64
  syncCommitteeSize : UInt64
  genesisTime : UInt64
  genesisSlot : UInt64
  forkParameters : ForkParameters
  secondsPerSlot : UInt64
  slotsPerEpoch : UInt64
  epochsPerSyncCommitteePeriod : UInt64
  latestSlot : UInt64
  latestExecutionBlockNumber : UInt64
  deriving DecidableEq, Repr

namespace ClientState

variable (cs : ClientState)

/-- `verify_supported_fork_at_epoch`: only Electra and later forks are supported. -/
def verifySupportedForkAtEpoch (epoch : UInt64) : Except Failure Unit :=
  if epoch < cs.forkParameters.electra.epoch then .error (.error .MustBeElectraOrLater) else .ok ()

/-- `compute_slot_at_timestamp`, with checked subtraction, division and addition. -/
def computeSlotAtTimestamp (timestampSeconds : UInt64) : Option UInt64 :=
  if timestampSeconds < cs.genesisTime ∨ cs.secondsPerSlot = 0 then none
  else
    let slotsSinceGenesis := (timestampSeconds - cs.genesisTime) / cs.secondsPerSlot
    if slotsSinceGenesis.toNat + cs.genesisSlot.toNat < 2 ^ 64 then some (slotsSinceGenesis + cs.genesisSlot) else none

/-- `compute_epoch_at_slot`. -/
def computeEpochAtSlot (slot : UInt64) : Except Failure UInt64 := Fault.div slot cs.slotsPerEpoch

/-- `compute_sync_committee_period`. -/
def computeSyncCommitteePeriod (epoch : UInt64) : Except Failure UInt64 :=
  Fault.div epoch cs.epochsPerSyncCommitteePeriod

/-- `compute_sync_committee_period_at_slot`. -/
def computeSyncCommitteePeriodAtSlot (slot : UInt64) : Except Failure UInt64 := do
  let epoch ← cs.computeEpochAtSlot slot
  cs.computeSyncCommitteePeriod epoch

/-- The sync committee period of `slot`: what `computeSyncCommitteePeriodAtSlot` returns when
it returns. -/
def period (slot : UInt64) : UInt64 := slot / cs.slotsPerEpoch / cs.epochsPerSyncCommitteePeriod

variable {cs}

@[simp] theorem computeEpochAtSlot_eq_ok {slot epoch : UInt64} :
    cs.computeEpochAtSlot slot = .ok epoch ↔ cs.slotsPerEpoch ≠ 0 ∧ epoch = slot / cs.slotsPerEpoch :=
  Fault.div_eq_ok

theorem computeSyncCommitteePeriodAtSlot_eq_ok {slot p : UInt64} :
    cs.computeSyncCommitteePeriodAtSlot slot = .ok p ↔
      cs.slotsPerEpoch ≠ 0 ∧ cs.epochsPerSyncCommitteePeriod ≠ 0 ∧ p = cs.period slot := by
  simp only [computeSyncCommitteePeriodAtSlot, computeSyncCommitteePeriod, Txn.bind_eq_ok,
    computeEpochAtSlot_eq_ok, Fault.div_eq_ok, period]
  constructor
  · rintro ⟨_, ⟨hspe, rfl⟩, hepp, rfl⟩
    exact ⟨hspe, hepp, rfl⟩
  · rintro ⟨hspe, hepp, rfl⟩
    exact ⟨_, ⟨hspe, rfl⟩, hepp, rfl⟩

theorem computeSyncCommitteePeriodAtSlot_of_ne (hspe : cs.slotsPerEpoch ≠ 0)
    (hepp : cs.epochsPerSyncCommitteePeriod ≠ 0) (slot : UInt64) :
    cs.computeSyncCommitteePeriodAtSlot slot = .ok (cs.period slot) :=
  computeSyncCommitteePeriodAtSlot_eq_ok.mpr ⟨hspe, hepp, rfl⟩

theorem period_toNat (slot : UInt64) :
    (cs.period slot).toNat = slot.toNat / cs.slotsPerEpoch.toNat / cs.epochsPerSyncCommitteePeriod.toNat := by
  simp [period, UInt64.toNat_div]

/-- Periods do not decrease with the slot. -/
theorem period_le_period {a b : UInt64} (h : a ≤ b) : cs.period a ≤ cs.period b := by
  rw [UInt64.le_iff_toNat_le, period_toNat, period_toNat]
  exact Nat.div_le_div_right (Nat.div_le_div_right (UInt64.le_iff_toNat_le.mp h))

end ClientState

/-! ## Sync committees -/

/-- `SyncCommittee`. -/
structure SyncCommittee where
  pubkeys : List BlsPublicKey
  aggregatePubkey : BlsPublicKey
  deriving DecidableEq, Repr

/-- `SummarizedSyncCommittee`: the root of the pubkeys and the aggregate key. -/
structure SummarizedSyncCommittee where
  pubkeysHash : B256
  aggregatePubkey : BlsPublicKey
  deriving DecidableEq, Repr

/-- `SyncAggregate`. -/
structure SyncAggregate where
  syncCommitteeBits : Bytes
  syncCommitteeSignature : BlsSignature
  deriving DecidableEq, Repr

/-- `u8::count_ones`. -/
def countOnes (b : UInt8) : ℕ := (List.range 8).countP fun i => b.toNat.testBit i

namespace SyncAggregate

variable (a : SyncAggregate)

/-- `num_sync_committe_participants`: the set bits, summed in u64. -/
def numSyncCommitteParticipants : UInt64 := (a.syncCommitteeBits.map fun b => (countOnes b).toUInt64).sum

/-- `sync_committee_size`: eight members per byte of bits. -/
def syncCommitteeSize : UInt64 := a.syncCommitteeBits.length.toUInt64 * 8

/-- `validate_signature_supermajority`: at least two thirds of the committee signed. -/
def validateSignatureSupermajority : Bool := a.numSyncCommitteParticipants * 3 ≥ a.syncCommitteeSize * 2

/-- The u64 count is the count of set bits, wrapped. -/
theorem numSyncCommitteParticipants_eq_sum :
    a.numSyncCommitteParticipants = (a.syncCommitteeBits.map countOnes).sum.toUInt64 := by
  unfold numSyncCommitteParticipants
  induction a.syncCommitteeBits with
  | nil => rfl
  | cons b bits ih => simp [ih]

/-- `has_sufficient_participants`. -/
def hasSufficientParticipants (minSyncCommitteeParticipants : UInt64) : Bool :=
  a.numSyncCommitteParticipants ≥ minSyncCommitteeParticipants

end SyncAggregate

/-! ## Headers and updates -/

/-- `BeaconBlockHeader`. -/
structure BeaconBlockHeader where
  slot : UInt64
  proposerIndex : UInt64
  parentRoot : B256
  stateRoot : B256
  bodyRoot : B256
  deriving DecidableEq, Repr

/-- `ExecutionPayloadHeader`. -/
structure ExecutionPayloadHeader where
  parentHash : B256
  feeRecipient : Bytes
  stateRoot : B256
  receiptsRoot : B256
  logsBloom : Bytes
  prevRandao : B256
  blockNumber : UInt64
  gasLimit : UInt64
  gasUsed : UInt64
  timestamp : UInt64
  extraData : Bytes
  baseFeePerGas : ℕ
  blockHash : B256
  transactionsRoot : B256
  withdrawalsRoot : B256
  blobGasUsed : UInt64
  excessBlobGas : UInt64
  deriving DecidableEq, Repr

/-- `EXECUTION_PAYLOAD_GINDEX`. -/
def executionPayloadGindex : UInt64 := 25

/-- `FINALIZED_ROOT_GINDEX_ELECTRA`. -/
def finalizedRootGindexElectra : UInt64 := 169

/-- `NEXT_SYNC_COMMITTEE_GINDEX_ELECTRA`. -/
def nextSyncCommitteeGindexElectra : UInt64 := 87

/-- `floorlog2`, applied to the positive generalized indices above. -/
def floorlog2 (n : UInt64) : ℕ := n.toNat.log2

/-- `LightClientHeader`. -/
structure LightClientHeader where
  beacon : BeaconBlockHeader
  execution : ExecutionPayloadHeader
  executionBranch : List.Vector B256 (floorlog2 executionPayloadGindex)
  deriving DecidableEq

/-- `LightClientUpdate`. The next sync committee and its branch are separate options. -/
structure LightClientUpdate where
  attestedHeader : LightClientHeader
  nextSyncCommittee : Option SyncCommittee
  nextSyncCommitteeBranch : Option (List.Vector B256 (floorlog2 nextSyncCommitteeGindexElectra))
  finalizedHeader : LightClientHeader
  finalityBranch : List.Vector B256 (floorlog2 finalizedRootGindexElectra)
  syncAggregate : SyncAggregate
  signatureSlot : UInt64
  deriving DecidableEq

/-- `ActiveSyncCommittee`: the committee the relayer says signed, as the trusted state's
current or next one. -/
inductive ActiveSyncCommittee where
  | Current (committee : SyncCommittee)
  | Next (committee : SyncCommittee)
  deriving DecidableEq, Repr

/-- `Header`. -/
structure Header where
  activeSyncCommittee : ActiveSyncCommittee
  consensusUpdate : LightClientUpdate
  trustedSlot : UInt64
  deriving DecidableEq

/-- `ConsensusState`. -/
structure ConsensusState where
  slot : UInt64
  stateRoot : B256
  timestamp : UInt64
  currentSyncCommittee : SummarizedSyncCommittee
  nextSyncCommittee : Option SummarizedSyncCommittee
  deriving DecidableEq, Repr

/-! ## Hashing and signatures -/

/-- The SSZ hash tree roots the client takes, and SHA-256. -/
structure Hashing where
  sha256 : Bytes → B256
  beaconBlockHeaderRoot : BeaconBlockHeader → B256
  executionPayloadHeaderRoot : ExecutionPayloadHeader → B256
  syncCommitteeRoot : SyncCommittee → B256
  pubkeysRoot : List BlsPublicKey → B256

/-- The `BlsVerify` trait. -/
structure BlsVerifier where
  fastAggregateVerify : List BlsPublicKey → B256 → BlsSignature → Except String Unit
  aggregate : List BlsPublicKey → Except String BlsPublicKey

/-- `SyncCommittee::to_summarized_sync_committee`. -/
def SyncCommittee.toSummarizedSyncCommittee (H : Hashing) (c : SyncCommittee) : SummarizedSyncCommittee :=
  ⟨H.pubkeysRoot c.pubkeys, c.aggregatePubkey⟩

end EthereumLightClient
