/-
# The Ethereum light client: verifying a header

`verify_header` checks a relayer's header against a stored consensus state:
the committee the relayer names must be the state's current or next one
(`TrustedConsensusState::new`), the light client update must be valid for it
(`validate_light_client_update`), two thirds of the committee must have
signed, the finalized slot must lie above the stored one, and a header that
finalizes into a later period must carry the next sync committee.
`validate_light_client_update` is the consensus specs' function of the same
name, in six parts that the model keeps as six definitions, in the source's
order: the participants and slots, the signature period, relevance, finality,
the next sync committee, and the signature.

An accepted update satisfies `ValidUpdate`: the slots are ordered, the periods
are computed, the committee that signed is the trusted current one for a
signature in the stored period and the trusted next one for a signature in the
period after, the update carries a next committee exactly when it carries its
branch, and the branch and the signature check out
(`validateLightClientUpdate_valid`). A header that passes `verify_header`
satisfies `VerifiedHeader` (`verifyHeader_verified`).

An update that carries a next sync committee branch but no next sync
committee gets past every check up to the branch, and the branch check
unwraps the missing committee: `validate_light_client_update` panics
(`validate_branchOnlyUpdate_panics`), and so does `verify_header` on a
header carrying that update (`verifyHeader_panics_without_next_committee`).

Key definitions: `TrustedConsensusState.new`, `validateLightClientUpdate`, `verifyHeader`,
`verifyMisbehaviour`, `ValidUpdate`, `VerifiedHeader`.
Key theorems: `validateLightClientUpdate_valid`, `verifyHeader_verified`,
`validate_branchOnlyUpdate_panics`.
-/
import IbcEureka.Ethereum.Types
import IbcEureka.Lib.Blocks

namespace EthereumLightClient

open Txn

variable (H : Hashing) (V : BlsVerifier)

/-! ## Merkle branches -/

/-- `get_subtree_index`: the generalized index below its top bit. -/
def getSubtreeIndex (idx : UInt64) : UInt64 := idx % (2 ^ idx.toNat.log2 : ℕ).toUInt64

/-- The loop of `validate_merkle_branch` from the `i`th node on: the value is hashed with each
node, the node first where bit `i` of `index` is set. -/
def merkleLoop (index : UInt64) : ℕ → B256 → List B256 → Except Failure B256
  | _, value, [] => .ok value
  | i, value, branchNode :: rest => do
    -- `2u64.checked_pow(i).unwrap()`: no power of two from `2 ^ 64` on fits
    let p ← Fault.unwrap (if i < 64 then some (2 ^ i : ℕ).toUInt64 else none)
    let value' := if index / p % 2 ≠ 0 then H.sha256 (branchNode ++ value) else H.sha256 (value ++ branchNode)
    merkleLoop index (i + 1) value' rest

/-- `validate_merkle_branch`. -/
def validateMerkleBranch (leaf : B256) (branch : List B256) (depth : ℕ) (index : UInt64) (root : B256) :
    Except Failure Unit := do
  let value ← merkleLoop H index 0 leaf (branch.take depth)
  Fault.ensure (value = root) (.InvalidMerkleBranch ⟨leaf, branch, depth, index, root, value⟩)

/-- `normalize_merkle_branch`: the branch padded with zero words to the depth of `gindex`; the
usize subtraction panics on a longer branch. -/
def normalizeMerkleBranch (branch : List B256) (gindex : UInt64) : Except Failure (List B256) :=
  if branch.length ≤ floorlog2 gindex then
    .ok (List.replicate (floorlog2 gindex - branch.length) b256Default ++ branch)
  else .error .panic

/-- `is_valid_normalized_merkle_branch`: the padding is zero words and the rest is a branch
from `leaf` to `root`. -/
def isValidNormalizedMerkleBranch (leaf : B256) (normalizedBranch : List B256) (gindex : UInt64) (root : B256) :
    Except Failure Unit :=
  if floorlog2 gindex ≤ normalizedBranch.length then do
    let numExtra := normalizedBranch.length - floorlog2 gindex
    Fault.ensure ((normalizedBranch.take numExtra).all (· = b256Default))
      (.InvalidNormalizedMerkleBranch numExtra normalizedBranch)
    validateMerkleBranch H leaf (normalizedBranch.drop numExtra) (floorlog2 gindex) (getSubtreeIndex gindex) root
  else .error .panic

/-! ## Sync protocol helpers -/

section Helpers

variable (cs : ClientState)

/-- The fork check every helper below starts with: the epoch of `slot` is Electra or later. -/
def verifySupportedForkAtSlot (slot : UInt64) : Except Failure Unit := do
  let epoch ← cs.computeEpochAtSlot slot
  cs.verifySupportedForkAtEpoch epoch

/-- `finalized_root_gindex_at_slot`. -/
def finalizedRootGindexAtSlot (slot : UInt64) : Except Failure UInt64 := do
  verifySupportedForkAtSlot cs slot
  pure finalizedRootGindexElectra

/-- `next_sync_committee_gindex_at_slot`. -/
def nextSyncCommitteeGindexAtSlot (slot : UInt64) : Except Failure UInt64 := do
  verifySupportedForkAtSlot cs slot
  pure nextSyncCommitteeGindexElectra

/-- `get_lc_execution_root`. -/
def getLcExecutionRoot (header : LightClientHeader) : Except Failure B256 := do
  verifySupportedForkAtSlot cs header.beacon.slot
  pure (H.executionPayloadHeaderRoot header.execution)

/-- `is_valid_light_client_header`: the execution payload header is in the block body. -/
def isValidLightClientHeader (header : LightClientHeader) : Except Failure Unit := do
  verifySupportedForkAtSlot cs header.beacon.slot
  let executionRoot ← getLcExecutionRoot H cs header
  validateMerkleBranch H executionRoot header.executionBranch.toList (floorlog2 executionPayloadGindex)
    (getSubtreeIndex executionPayloadGindex) header.beacon.bodyRoot

end Helpers

/-! ## Signing -/

/-- `DomainType::SYNC_COMMITTEE`. -/
def domainSyncCommittee : Bytes := [7, 0, 0, 0]

/-- `compute_fork_data_root`: the root of the two-chunk container of the version, padded to a
chunk, and the genesis validators root. -/
def computeForkDataRoot (currentVersion : Version) (genesisValidatorsRoot : B256) : B256 :=
  H.sha256 (currentVersion ++ List.replicate (32 - currentVersion.length) 0 ++ genesisValidatorsRoot)

/-- `compute_domain`: the domain type and the first 28 bytes of the fork data root. -/
def computeDomain (domainType : Bytes) (forkVersion : Option Version) (genesisValidatorsRoot : Option B256)
    (genesisForkVersion : Version) : B256 :=
  domainType ++ (computeForkDataRoot H (forkVersion.getD genesisForkVersion)
    (genesisValidatorsRoot.getD b256Default)).take 28

/-- `compute_signing_root` of a beacon block header: the root of the two-chunk container of
its root and the domain. -/
def computeSigningRoot (header : BeaconBlockHeader) (domain : B256) : B256 :=
  H.sha256 (H.beaconBlockHeaderRoot header ++ domain)

/-- The participants' keys: bit `i` of byte `j` (least significant first) marks member `8j + i`. -/
def participantPubkeys (bits : Bytes) (pubkeys : List BlsPublicKey) : List BlsPublicKey :=
  ((bits.flatMap fun byte => (List.range 8).map fun i => byte.toNat.testBit i).zip pubkeys).filterMap
    fun p => if p.1 then some p.2 else none

/-- Bit `i` of the participation bits: bit `i % 8` of byte `i / 8`, least significant first. -/
def participationBit (bits : Bytes) (i : ℕ) : Bool := (bits.getD (i / 8) 0).toNat.testBit (i % 8)

/-- **The participants are the members whose bits are set.** With one byte of bits for every
eight members, `participantPubkeys` keeps the keys at the indices whose participation bit is set,
in order, and keeps as many as `num_sync_committe_participants` counts: in ℕ, and in u64. -/
theorem participantPubkeys_selects_set_bits (a : SyncAggregate) (pubkeys : List BlsPublicKey)
    (hlen : 8 * a.syncCommitteeBits.length = pubkeys.length) :
    participantPubkeys a.syncCommitteeBits pubkeys =
        (List.range pubkeys.length).filterMap
          (fun i => if participationBit a.syncCommitteeBits i then pubkeys[i]? else none) ∧
      (participantPubkeys a.syncCommitteeBits pubkeys).length = (a.syncCommitteeBits.map countOnes).sum ∧
      (participantPubkeys a.syncCommitteeBits pubkeys).length.toUInt64 = a.numSyncCommitteParticipants := by
  -- the flags the source zips with the keys, eight to a byte
  set flags := a.syncCommitteeBits.flatMap fun byte => (List.range 8).map fun i => byte.toNat.testBit i
  have hflags : flags.length = pubkeys.length := by
    simp [flags, List.length_flatMap, ← hlen, mul_comm]
  have hbit : ∀ i < pubkeys.length, flags[i]? = some (participationBit a.syncCommitteeBits i) := by
    intro i hi
    have hbyte : i / 8 < a.syncCommitteeBits.length := by omega
    rw [Blocks.getElem?_flatMap_range (by decide), List.getElem?_eq_getElem hbyte]
    simp [participationBit, List.getD_eq_getElem?_getD, List.getElem?_eq_getElem hbyte]
  have hcount : (participantPubkeys a.syncCommitteeBits pubkeys).length = (a.syncCommitteeBits.map countOnes).sum := by
    rw [participantPubkeys, Blocks.length_filterMap_zip _ _ hflags.le, Blocks.count_flatMap_range]
    rfl
  refine ⟨Blocks.filterMap_zip_eq _ flags pubkeys hflags.ge hbit, hcount, ?_⟩
  rw [hcount, SyncAggregate.numSyncCommitteParticipants_eq_sum]

theorem participantPubkeys_selects_set_bits_five :
    8 * (⟨[5], []⟩ : SyncAggregate).syncCommitteeBits.length = ((List.range 8).map fun i => [i.toUInt8]).length ∧
      participantPubkeys (⟨[5], []⟩ : SyncAggregate).syncCommitteeBits ((List.range 8).map fun i => [i.toUInt8]) =
          (List.range ((List.range 8).map fun i => [i.toUInt8]).length).filterMap
            (fun i => if participationBit (⟨[5], []⟩ : SyncAggregate).syncCommitteeBits i then
              ((List.range 8).map fun i => [i.toUInt8])[i]? else none) ∧
        (participantPubkeys (⟨[5], []⟩ : SyncAggregate).syncCommitteeBits
          ((List.range 8).map fun i => [i.toUInt8])).length =
            ((⟨[5], []⟩ : SyncAggregate).syncCommitteeBits.map countOnes).sum ∧
        (participantPubkeys (⟨[5], []⟩ : SyncAggregate).syncCommitteeBits
          ((List.range 8).map fun i => [i.toUInt8])).length.toUInt64 =
            (⟨[5], []⟩ : SyncAggregate).numSyncCommitteParticipants :=
  ⟨by decide, participantPubkeys_selects_set_bits ⟨[5], []⟩ _ (by decide)⟩

example : participantPubkeys [5] ((List.range 8).map fun i => [i.toUInt8]) = [[0], [2]] := by decide

/-! ## The trusted consensus state -/

/-- `TrustedConsensusState`: a stored consensus state and the full committee the relayer says
signed, which `new` has checked against it. -/
structure TrustedConsensusState where
  state : ConsensusState
  syncCommittee : ActiveSyncCommittee
  deriving DecidableEq

namespace TrustedConsensusState

/-- `TrustedConsensusState::new`: the committee is the stored current one or the stored next
one, has the configured size, and its keys aggregate to its aggregate key. -/
def new (clientState : ClientState) (trustedState : ConsensusState) (untrustedSyncCommittee : ActiveSyncCommittee) :
    Except Failure TrustedConsensusState := do
  let fullCommittee ← match untrustedSyncCommittee with
    | .Current committee => do
      Fault.ensure (committee.toSummarizedSyncCommittee H = trustedState.currentSyncCommittee)
        (.CurrenttSyncCommitteeMismatch trustedState.currentSyncCommittee.aggregatePubkey committee.aggregatePubkey)
      pure committee
    | .Next committee => do
      let trustedNextSyncCommittee ← Fault.okOr trustedState.nextSyncCommittee .NextSyncCommitteeUnknown
      Fault.ensure (committee.toSummarizedSyncCommittee H = trustedNextSyncCommittee)
        (.NextSyncCommitteeMismatch trustedNextSyncCommittee.aggregatePubkey committee.aggregatePubkey)
      pure committee
  Fault.ensure (fullCommittee.pubkeys.length.toUInt64 = clientState.syncCommitteeSize)
    (.InsufficientSyncCommitteeLength clientState.syncCommitteeSize fullCommittee.pubkeys.length.toUInt64)
  let aggregatePubkey ← Fault.mapErr .BlsAggregateError (Fault.lift (V.aggregate fullCommittee.pubkeys))
  Fault.ensure (aggregatePubkey = fullCommittee.aggregatePubkey)
    (.AggregatePubkeyMismatch aggregatePubkey fullCommittee.aggregatePubkey)
  pure ⟨trustedState, untrustedSyncCommittee⟩

variable (tcs : TrustedConsensusState)

/-- `finalized_slot`. -/
def finalizedSlot : UInt64 := tcs.state.slot

/-- `current_sync_committee`: the committee, if the relayer named the current one. -/
def currentSyncCommittee : Option SyncCommittee :=
  match tcs.syncCommittee with
  | .Current committee => some committee
  | .Next _ => none

/-- `next_sync_committee`: the committee, if the relayer named the next one. -/
def nextSyncCommittee : Option SyncCommittee :=
  match tcs.syncCommittee with
  | .Current _ => none
  | .Next committee => some committee

end TrustedConsensusState

/-! ## `validate_light_client_update` -/

section Validate

variable (cs : ClientState) (tcs : TrustedConsensusState) (update : LightClientUpdate)

/-- The participants, the attested header and the order of the slots: the signature is not
from the future and lies after the attested slot, which is at or after the finalized one. -/
def validateSlots (currentSlot : UInt64) : Except Failure Unit := do
  Fault.ensure (update.syncAggregate.hasSufficientParticipants cs.minSyncCommitteeParticipants)
    (.InsufficientSyncCommitteeParticipants update.syncAggregate.numSyncCommitteParticipants)
  isValidLightClientHeader H cs update.attestedHeader
  let updateAttestedSlot := update.attestedHeader.beacon.slot
  let updateFinalizedSlot := update.finalizedHeader.beacon.slot
  Fault.ensure (updateFinalizedSlot ≠ cs.genesisSlot) .FinalizedSlotIsGenesis
  Fault.ensure (currentSlot ≥ update.signatureSlot)
    (.UpdateSignatureSlotMoreRecentThanCurrentSlot currentSlot update.signatureSlot)
  Fault.ensure (update.signatureSlot > updateAttestedSlot ∧ updateAttestedSlot ≥ updateFinalizedSlot)
    (.InvalidSlots update.signatureSlot updateAttestedSlot updateFinalizedSlot)

/-- The signature period is the stored one, or, where the next committee is known, the one
after (u64 addition, which wraps). -/
def validateSignaturePeriod (signaturePeriod storedPeriod : UInt64) : Except Failure Unit :=
  if tcs.nextSyncCommittee.isSome then
    Fault.ensure (signaturePeriod = storedPeriod ∨ signaturePeriod = storedPeriod + 1)
      (.InvalidSignaturePeriodWhenNextSyncCommitteeExists signaturePeriod storedPeriod)
  else
    Fault.ensure (signaturePeriod = storedPeriod)
      (.InvalidSignaturePeriodWhenNextSyncCommitteeDoesNotExist signaturePeriod storedPeriod)

/-- The update is relevant: its attested slot is newer than the trusted one, or it brings the
unknown next committee from the stored period. -/
def validateRelevance (updateAttestedPeriod storedPeriod : UInt64) : Except Failure Unit :=
  let updateHasNextSyncCommittee :=
    !tcs.nextSyncCommittee.isSome && update.nextSyncCommitteeBranch.isSome && updateAttestedPeriod == storedPeriod
  Fault.ensure (update.attestedHeader.beacon.slot > tcs.finalizedSlot ∨ updateHasNextSyncCommittee = true)
    (.IrrelevantUpdate update.attestedHeader.beacon.slot tcs.finalizedSlot updateAttestedPeriod storedPeriod
      update.nextSyncCommittee.isSome tcs.nextSyncCommittee.isSome)

/-- The finalized header is valid and its root is in the attested state. -/
def validateFinality : Except Failure Unit := do
  isValidLightClientHeader H cs update.finalizedHeader
  let finalizedRoot := H.beaconBlockHeaderRoot update.finalizedHeader.beacon
  let finalizedRootGindex ← finalizedRootGindexAtSlot cs update.attestedHeader.beacon.slot
  let normalized ← normalizeMerkleBranch update.finalityBranch.toList finalizedRootGindex
  Fault.mapErr .ValidateFinalizedHeaderFailed
    (isValidNormalizedMerkleBranch H finalizedRoot normalized finalizedRootGindex update.attestedHeader.beacon.stateRoot)

/-- The given next sync committee is in the attested header's state. -/
def validateNextSyncCommitteeBranch : Except Failure Unit := do
  let nextSyncCommitteeGindex ← nextSyncCommitteeGindexAtSlot cs update.attestedHeader.beacon.slot
  let updateNext ← Fault.unwrap update.nextSyncCommittee
  let branch ← Fault.unwrap update.nextSyncCommitteeBranch
  let normalized ← normalizeMerkleBranch branch.toList nextSyncCommitteeGindex
  Fault.mapErr .ValidateNextSyncCommitteeFailed
    (isValidNormalizedMerkleBranch H (H.syncCommitteeRoot updateNext) normalized nextSyncCommitteeGindex
      update.attestedHeader.beacon.stateRoot)

/-- The next sync committee: with a branch, it agrees with a known next committee of the same
period and is in the attested state; without one, there is none. The `unwrap`s of
`update.next_sync_committee` are reached whenever the branch is there. -/
def validateNextSyncCommittee (updateAttestedPeriod storedPeriod : UInt64) : Except Failure Unit :=
  if update.nextSyncCommitteeBranch.isSome then do
    if updateAttestedPeriod = storedPeriod ∧ tcs.nextSyncCommittee.isSome then do
      let updateNext ← Fault.unwrap update.nextSyncCommittee
      let trustedNext ← Fault.unwrap tcs.nextSyncCommittee
      Fault.ensure (updateNext = trustedNext)
        (.NextSyncCommitteeMismatch trustedNext.aggregatePubkey updateNext.aggregatePubkey)
    validateNextSyncCommitteeBranch H cs update
  else
    Fault.ensure update.nextSyncCommittee.isNone .UnexpectedNextSyncCommittee

/-- The committee that signed: the trusted current one for a signature in the stored period,
the trusted next one otherwise. -/
def signingSyncCommittee (signaturePeriod storedPeriod : UInt64) : Except Failure SyncCommittee :=
  if signaturePeriod = storedPeriod then Fault.okOr tcs.currentSyncCommittee .ExpectedCurrentSyncCommittee
  else Fault.okOr tcs.nextSyncCommittee .ExpectedNextSyncCommittee

/-- The signature of the participants over the attested header, in the domain of the fork of
the slot before the signature slot. -/
def verifySyncAggregate (syncCommittee : SyncCommittee) : Except Failure Unit := do
  Fault.ensure (update.syncAggregate.syncCommitteeSize = syncCommittee.pubkeys.length.toUInt64)
    (.InsufficientSyncCommitteeLength syncCommittee.pubkeys.length.toUInt64 update.syncAggregate.syncCommitteeSize)
  let participants := participantPubkeys update.syncAggregate.syncCommitteeBits syncCommittee.pubkeys
  let forkVersionSlot := max update.signatureSlot 1 - 1
  let epoch ← cs.computeEpochAtSlot forkVersionSlot
  let forkVersion := cs.forkParameters.computeForkVersion epoch
  let domain := computeDomain H domainSyncCommittee (some forkVersion) (some cs.genesisValidatorsRoot)
    cs.forkParameters.genesisForkVersion
  let signingRoot := computeSigningRoot H update.attestedHeader.beacon domain
  Fault.mapErr .FastAggregateVerifyError
    (Fault.lift (V.fastAggregateVerify participants signingRoot update.syncAggregate.syncCommitteeSignature))

/-- `validate_light_client_update`. -/
def validateLightClientUpdate (currentSlot : UInt64) : Except Failure Unit := do
  validateSlots H cs update currentSlot
  let storedPeriod ← cs.computeSyncCommitteePeriodAtSlot tcs.finalizedSlot
  let signaturePeriod ← cs.computeSyncCommitteePeriodAtSlot update.signatureSlot
  validateSignaturePeriod tcs signaturePeriod storedPeriod
  let updateAttestedPeriod ← cs.computeSyncCommitteePeriodAtSlot update.attestedHeader.beacon.slot
  validateRelevance tcs update updateAttestedPeriod storedPeriod
  validateFinality H cs update
  validateNextSyncCommittee H cs tcs update updateAttestedPeriod storedPeriod
  let syncCommittee ← signingSyncCommittee tcs signaturePeriod storedPeriod
  verifySyncAggregate H V cs update syncCommittee

end Validate

/-! ## `verify_header` and `verify_misbehaviour` -/

/-- The slot at `currentTimestamp`, or the error `verify_header` returns. -/
def currentSlotAt (clientState : ClientState) (currentTimestamp : UInt64) : Except Failure UInt64 :=
  Fault.okOr (clientState.computeSlotAtTimestamp currentTimestamp)
    (.FailedToComputeSlotAtTimestamp currentTimestamp clientState.genesisTime clientState.secondsPerSlot
      clientState.genesisSlot)

/-- `verify_header`. -/
def verifyHeader (consensusState : ConsensusState) (clientState : ClientState) (currentTimestamp : UInt64)
    (header : Header) : Except Failure Unit := do
  let trustedConsensusState ←
    TrustedConsensusState.new H V clientState consensusState header.activeSyncCommittee
  let currentSlot ← currentSlotAt clientState currentTimestamp
  validateLightClientUpdate H V clientState trustedConsensusState header.consensusUpdate currentSlot
  Fault.ensure header.consensusUpdate.syncAggregate.validateSignatureSupermajority .NotEnoughSignatures
  Fault.ensure (header.consensusUpdate.finalizedHeader.beacon.slot > consensusState.slot)
    (.InvalidUpdateSlot consensusState.slot header.consensusUpdate.finalizedHeader.beacon.slot)
  let updateFinalizedPeriod ←
    clientState.computeSyncCommitteePeriodAtSlot header.consensusUpdate.finalizedHeader.beacon.slot
  let storePeriod ← clientState.computeSyncCommitteePeriodAtSlot consensusState.slot
  if updateFinalizedPeriod > storePeriod then
    Fault.ensure header.consensusUpdate.nextSyncCommitteeBranch.isSome .ExpectedNextSyncCommitteeUpdate

/-- `verify_misbehaviour`: two valid updates for the same attested slot with different
execution state roots. -/
def verifyMisbehaviour (clientState : ClientState) (consensusState : ConsensusState)
    (fullSyncCommittee : ActiveSyncCommittee) (update₁ update₂ : LightClientUpdate) (currentTimestamp : UInt64) :
    Except Failure Unit := do
  let trustedConsensusState ← TrustedConsensusState.new H V clientState consensusState fullSyncCommittee
  let slot₁ := update₁.attestedHeader.beacon.slot
  let slot₂ := update₂.attestedHeader.beacon.slot
  Fault.ensure (slot₁ = slot₂) (.MisbehaviourSlotMismatch slot₁ slot₂)
  let stateRoot₁ := update₁.attestedHeader.execution.stateRoot
  let stateRoot₂ := update₂.attestedHeader.execution.stateRoot
  Fault.ensure (stateRoot₁ ≠ stateRoot₂) (.MisbehaviourStorageRootsMatch stateRoot₁)
  let currentSlot ← currentSlotAt clientState currentTimestamp
  validateLightClientUpdate H V clientState trustedConsensusState update₁ currentSlot
  validateLightClientUpdate H V clientState trustedConsensusState update₂ currentSlot

/-! ## What an accepted update satisfies -/

section Specs

variable {H : Hashing} {V : BlsVerifier}

/-- `Trusted H c committee`: the committee the relayer names is the stored one it says. -/
def ActiveSyncCommittee.Trusted (H : Hashing) (c : ConsensusState) : ActiveSyncCommittee → Prop
  | .Current committee => committee.toSummarizedSyncCommittee H = c.currentSyncCommittee
  | .Next committee => c.nextSyncCommittee = some (committee.toSummarizedSyncCommittee H)

namespace TrustedConsensusState

theorem new_eq_ok {cs : ClientState} {c : ConsensusState} {asc : ActiveSyncCommittee} {tcs : TrustedConsensusState}
    (h : new H V cs c asc = .ok tcs) : tcs = ⟨c, asc⟩ ∧ asc.Trusted H c := by
  cases asc with
  | Current committee =>
    simp only [new, bind_eq_ok, Fault.ensure_eq_ok, pure_eq_ok, exists_const, exists_eq_left'] at h
    obtain ⟨htrusted, -, -, -, -, rfl⟩ := h
    exact ⟨rfl, htrusted⟩
  | Next committee =>
    simp only [new, bind_eq_ok, Fault.ensure_eq_ok, Fault.okOr_eq_ok, pure_eq_ok, exists_const, exists_eq_left'] at h
    obtain ⟨n, hn, htrusted, -, -, -, -, rfl⟩ := h
    exact ⟨rfl, hn.trans (congrArg some htrusted.symm)⟩

variable {tcs : TrustedConsensusState} {sc : SyncCommittee}

@[simp] theorem currentSyncCommittee_eq_some : tcs.currentSyncCommittee = some sc ↔ tcs.syncCommittee = .Current sc := by
  unfold currentSyncCommittee
  split <;> simp_all

@[simp] theorem nextSyncCommittee_eq_some : tcs.nextSyncCommittee = some sc ↔ tcs.syncCommittee = .Next sc := by
  unfold nextSyncCommittee
  split <;> simp_all

end TrustedConsensusState

section Stages

variable {cs : ClientState} {tcs : TrustedConsensusState} {update : LightClientUpdate}

theorem validateSlots_ok {currentSlot : UInt64} (h : validateSlots H cs update currentSlot = .ok ()) :
    update.finalizedHeader.beacon.slot ≤ update.attestedHeader.beacon.slot ∧
      update.attestedHeader.beacon.slot < update.signatureSlot ∧ update.signatureSlot ≤ currentSlot := by
  simp only [validateSlots, bind_unit_eq_ok, Fault.ensure_eq_ok] at h
  obtain ⟨-, -, -, hcurrent, hsignature, hfinalized⟩ := h
  exact ⟨hfinalized, hsignature, hcurrent⟩

theorem validateSignaturePeriod_ok {signaturePeriod storedPeriod : UInt64}
    (h : validateSignaturePeriod tcs signaturePeriod storedPeriod = .ok ()) :
    signaturePeriod = storedPeriod ∨ (tcs.nextSyncCommittee.isSome ∧ signaturePeriod = storedPeriod + 1) := by
  unfold validateSignaturePeriod at h
  split at h
  · rcases Fault.ensure_eq_ok.mp h with hsame | hnext
    · exact .inl hsame
    · exact .inr ⟨‹_›, hnext⟩
  · exact .inl (Fault.ensure_eq_ok.mp h)

theorem signingSyncCommittee_ok {signaturePeriod storedPeriod : UInt64}
    (h : signingSyncCommittee tcs signaturePeriod storedPeriod = .ok sc) :
    (signaturePeriod = storedPeriod ∧ tcs.syncCommittee = .Current sc) ∨
      (signaturePeriod ≠ storedPeriod ∧ tcs.syncCommittee = .Next sc) := by
  unfold signingSyncCommittee at h
  split at h
  · exact .inl ⟨‹_›, by simpa using h⟩
  · exact .inr ⟨‹_›, by simpa using h⟩

theorem normalizeMerkleBranch_of_length {branch : List B256} {gindex : UInt64} (h : branch.length = floorlog2 gindex) :
    normalizeMerkleBranch branch gindex = .ok branch := by
  simp [normalizeMerkleBranch, h]

theorem validateNextSyncCommitteeBranch_ok (h : validateNextSyncCommitteeBranch H cs update = .ok ()) :
    ∃ next branch, update.nextSyncCommittee = some next ∧ update.nextSyncCommitteeBranch = some branch ∧
      isValidNormalizedMerkleBranch H (H.syncCommitteeRoot next) branch.toList nextSyncCommitteeGindexElectra
        update.attestedHeader.beacon.stateRoot = .ok () := by
  simp only [validateNextSyncCommitteeBranch, bind_eq_ok, Fault.unwrap_eq_ok, Fault.mapErr_eq_ok] at h
  obtain ⟨gindex, hgindex, next, hnext, branch, hb, normalized, hnorm, hvalid⟩ := h
  simp only [nextSyncCommitteeGindexAtSlot, bind_unit_eq_ok, pure_eq_ok] at hgindex
  obtain ⟨-, rfl⟩ := hgindex
  rw [normalizeMerkleBranch_of_length branch.toList_length] at hnorm
  cases hnorm
  exact ⟨next, branch, hnext, hb, hvalid⟩

theorem validateNextSyncCommittee_ok {updateAttestedPeriod storedPeriod : UInt64}
    (h : validateNextSyncCommittee H cs tcs update updateAttestedPeriod storedPeriod = .ok ()) :
    update.nextSyncCommittee.isSome = update.nextSyncCommitteeBranch.isSome ∧
      ∀ next branch, update.nextSyncCommittee = some next → update.nextSyncCommitteeBranch = some branch →
        isValidNormalizedMerkleBranch H (H.syncCommitteeRoot next) branch.toList nextSyncCommitteeGindexElectra
          update.attestedHeader.beacon.stateRoot = .ok () := by
  unfold validateNextSyncCommittee at h
  split at h
  · -- with a branch the last step is the branch check, after the equality check or not
    have hbranch : validateNextSyncCommitteeBranch H cs update = .ok () := by
      split at h
      · simp only [bind_eq_ok] at h
        obtain ⟨_, -, _, -, ⟨⟩, -, hbranch⟩ := h
        exact hbranch
      · exact h
    obtain ⟨next, branch, hnext, hb, hvalid⟩ := validateNextSyncCommitteeBranch_ok hbranch
    refine ⟨by simp [hnext, hb], fun next' branch' hnext' hb' => ?_⟩
    rw [hnext, Option.some_inj] at hnext'
    rw [hb, Option.some_inj] at hb'
    subst hnext' hb'
    exact hvalid
  · rename_i hbranch
    have hnone : update.nextSyncCommittee.isNone = true := Fault.ensure_eq_ok.mp h
    refine ⟨by simp_all, fun next branch _ hb => ?_⟩
    simp [hb] at hbranch

theorem signedBy_of_ok {signaturePeriod storedPeriod : UInt64}
    (hperiod : validateSignaturePeriod tcs signaturePeriod storedPeriod = .ok ())
    (hsc : signingSyncCommittee tcs signaturePeriod storedPeriod = .ok sc) :
    (signaturePeriod = storedPeriod ∧ tcs.syncCommittee = .Current sc) ∨
      (signaturePeriod = storedPeriod + 1 ∧ tcs.syncCommittee = .Next sc) := by
  rcases signingSyncCommittee_ok hsc with hcurrent | ⟨hne, hnext⟩
  · exact .inl hcurrent
  · rcases validateSignaturePeriod_ok hperiod with hsame | ⟨-, hsucc⟩
    · exact absurd hsame hne
    · exact .inr ⟨hsucc, hnext⟩

theorem verifySyncAggregate_signed (h : verifySyncAggregate H V cs update sc = .ok ()) :
    ∃ pubkeys domain, V.fastAggregateVerify pubkeys (computeSigningRoot H update.attestedHeader.beacon domain)
      update.syncAggregate.syncCommitteeSignature = .ok () := by
  simp only [verifySyncAggregate, bind_eq_ok, Fault.mapErr_eq_ok, Fault.lift_eq_ok] at h
  obtain ⟨⟨⟩, -, _, -, hverify⟩ := h
  exact ⟨_, _, hverify⟩

/-- With the current committee named, a signature in the stored period passes the period check. -/
theorem validateSignaturePeriod_current (state : ConsensusState) (committee : SyncCommittee) (period : UInt64) :
    validateSignaturePeriod ⟨state, .Current committee⟩ period period = .ok () := by
  simp [validateSignaturePeriod, TrustedConsensusState.nextSyncCommittee, Fault.ensure, Txn.require]

/-- An update attested above the trusted slot is relevant. -/
theorem validateRelevance_of_lt {updateAttestedPeriod storedPeriod : UInt64}
    (h : tcs.finalizedSlot < update.attestedHeader.beacon.slot) :
    validateRelevance tcs update updateAttestedPeriod storedPeriod = .ok () := by
  simp [validateRelevance, Fault.ensure, Txn.require, h]

/-- **The unwrap.** An update with a next sync committee branch and no next sync committee
makes the next committee check panic, once the attested slot's fork is supported. -/
theorem validateNextSyncCommittee_panic {updateAttestedPeriod storedPeriod : UInt64}
    (hbranch : update.nextSyncCommitteeBranch.isSome = true) (hnone : update.nextSyncCommittee = none)
    (hfork : verifySupportedForkAtSlot cs update.attestedHeader.beacon.slot = .ok ()) :
    validateNextSyncCommittee H cs tcs update updateAttestedPeriod storedPeriod = .error .panic := by
  have htail : validateNextSyncCommitteeBranch H cs update = .error .panic := by
    simp [validateNextSyncCommitteeBranch, nextSyncCommitteeGindexAtSlot, hfork, hnone, bind, Except.bind, pure,
      Except.pure]
  rw [validateNextSyncCommittee, if_pos hbranch]
  split
  · simp [hnone, bind, Except.bind]
  · exact htail

end Stages

/-- What an update that `validate_light_client_update` accepts against `tcs` satisfies. -/
structure ValidUpdate (H : Hashing) (V : BlsVerifier) (cs : ClientState) (tcs : TrustedConsensusState)
    (update : LightClientUpdate) (currentSlot : UInt64) : Prop where
  slotsPerEpoch_ne : cs.slotsPerEpoch ≠ 0
  epochsPerSyncCommitteePeriod_ne : cs.epochsPerSyncCommitteePeriod ≠ 0
  finalized_le_attested : update.finalizedHeader.beacon.slot ≤ update.attestedHeader.beacon.slot
  attested_lt_signature : update.attestedHeader.beacon.slot < update.signatureSlot
  signature_le_current : update.signatureSlot ≤ currentSlot
  /-- A signature in the stored period is the trusted current committee's, one in the period
  after (u64 addition) the trusted next committee's. -/
  signedBy : (cs.period update.signatureSlot = cs.period tcs.finalizedSlot ∧
      ∃ sc, tcs.syncCommittee = .Current sc) ∨
    (cs.period update.signatureSlot = cs.period tcs.finalizedSlot + 1 ∧ ∃ sc, tcs.syncCommittee = .Next sc)
  next_isSome : update.nextSyncCommittee.isSome = update.nextSyncCommitteeBranch.isSome
  next_in_state : ∀ next branch, update.nextSyncCommittee = some next → update.nextSyncCommitteeBranch = some branch →
    isValidNormalizedMerkleBranch H (H.syncCommitteeRoot next) branch.toList nextSyncCommitteeGindexElectra
      update.attestedHeader.beacon.stateRoot = .ok ()
  signed : ∃ pubkeys domain, V.fastAggregateVerify pubkeys (computeSigningRoot H update.attestedHeader.beacon domain)
    update.syncAggregate.syncCommitteeSignature = .ok ()

theorem validateLightClientUpdate_valid {cs : ClientState} {tcs : TrustedConsensusState} {update : LightClientUpdate}
    {currentSlot : UInt64} (h : validateLightClientUpdate H V cs tcs update currentSlot = .ok ()) :
    ValidUpdate H V cs tcs update currentSlot := by
  simp only [validateLightClientUpdate, bind_eq_ok, ClientState.computeSyncCommitteePeriodAtSlot_eq_ok] at h
  obtain ⟨⟨⟩, hslots, _, ⟨hspe, hepp, rfl⟩, _, ⟨-, -, rfl⟩, ⟨⟩, hperiod, _, ⟨-, -, rfl⟩, ⟨⟩, -, ⟨⟩, -, ⟨⟩, hnext,
    sc, hsc, hsig⟩ := h
  obtain ⟨hfinalized, hattested, hcurrent⟩ := validateSlots_ok hslots
  obtain ⟨hnextSome, hnextState⟩ := validateNextSyncCommittee_ok hnext
  have hsignedBy := signedBy_of_ok hperiod hsc
  refine ⟨hspe, hepp, hfinalized, hattested, hcurrent, ?_, hnextSome, hnextState, verifySyncAggregate_signed hsig⟩
  rcases hsignedBy with ⟨hp, hc⟩ | ⟨hp, hc⟩
  · exact .inl ⟨hp, sc, hc⟩
  · exact .inr ⟨hp, sc, hc⟩

/-- What a header that `verify_header` accepts against the consensus state `c` satisfies. -/
structure VerifiedHeader (H : Hashing) (V : BlsVerifier) (c : ConsensusState) (cs : ClientState)
    (header : Header) : Prop where
  trusted : header.activeSyncCommittee.Trusted H c
  valid : ∃ currentSlot, ValidUpdate H V cs ⟨c, header.activeSyncCommittee⟩ header.consensusUpdate currentSlot
  supermajority : header.consensusUpdate.syncAggregate.validateSignatureSupermajority = true
  above_trusted : c.slot < header.consensusUpdate.finalizedHeader.beacon.slot
  /-- A header that finalizes into a later period carries the next committee's branch. -/
  branch_of_later : cs.period c.slot < cs.period header.consensusUpdate.finalizedHeader.beacon.slot →
    header.consensusUpdate.nextSyncCommitteeBranch.isSome = true

theorem verifyHeader_verified {c : ConsensusState} {cs : ClientState} {currentTimestamp : UInt64} {header : Header}
    (h : verifyHeader H V c cs currentTimestamp header = .ok ()) : VerifiedHeader H V c cs header := by
  simp only [verifyHeader, bind_eq_ok, Fault.ensure_eq_ok, ClientState.computeSyncCommitteePeriodAtSlot_eq_ok] at h
  obtain ⟨tcs, htcs, currentSlot, -, ⟨⟩, hvalid, ⟨⟩, hsuper, ⟨⟩, habove, _, ⟨-, -, rfl⟩, _, ⟨-, -, rfl⟩, hlast⟩ := h
  obtain ⟨rfl, htrusted⟩ := TrustedConsensusState.new_eq_ok htcs
  refine ⟨htrusted, ⟨currentSlot, validateLightClientUpdate_valid hvalid⟩, hsuper, habove, fun hlater => ?_⟩
  rw [if_pos hlater] at hlast
  exact Fault.ensure_eq_ok.mp hlast

end Specs

/-! ## A branch without a committee -/

section BranchOnly

variable (H : Hashing)

/-- The root `validate_merkle_branch` reaches from `leaf` up `d` zero words, or `leaf` itself
should the loop fail. -/
def zeroBranchRoot (index : UInt64) (d : ℕ) (leaf : B256) : B256 :=
  match merkleLoop H index 0 leaf (List.replicate d b256Default) with
  | .ok root => root
  | .error _ => leaf

theorem merkleLoop_ok (index : UInt64) : ∀ (nodes : List B256) (i : ℕ) (value : B256), i + nodes.length ≤ 64 →
    ∃ root, merkleLoop H index i value nodes = .ok root
  | [], _, value, _ => ⟨value, rfl⟩
  | node :: nodes, i, value, hlen => by
    have hi : i < 64 := by
      simp only [List.length_cons] at hlen
      omega
    have hrest : i + 1 + nodes.length ≤ 64 := by
      simp only [List.length_cons] at hlen
      omega
    simp only [merkleLoop, if_pos hi, Fault.unwrap, Txn.expect, bind, Except.bind]
    exact merkleLoop_ok index nodes (i + 1) _ hrest

/-- A zero branch of depth at most 64 checks out against its `zeroBranchRoot`. -/
theorem validateMerkleBranch_zeroBranchRoot {d : ℕ} (hd : d ≤ 64) (index : UInt64) (leaf : B256) :
    validateMerkleBranch H leaf (List.replicate d b256Default) d index (zeroBranchRoot H index d leaf) = .ok () := by
  obtain ⟨root, hroot⟩ := merkleLoop_ok H index (List.replicate d b256Default) 0 leaf (by simpa using hd)
  simp [validateMerkleBranch, zeroBranchRoot, hroot, Fault.ensure, Txn.require, bind, Except.bind]

/-- Fork parameters with every fork from genesis on. -/
def allForksAtGenesis : ForkParameters := ⟨[], ⟨[], 0⟩, ⟨[], 0⟩, ⟨[], 0⟩, ⟨[], 0⟩, ⟨[], 0⟩, ⟨[], 0⟩⟩

/-- A client state with mainnet's slot and period lengths and no participation threshold. -/
def sampleClientState : ClientState where
  genesisValidatorsRoot := b256Default
  minSyncCommitteeParticipants := 0
  syncCommitteeSize := 0
  genesisTime := 0
  genesisSlot := 0
  forkParameters := allForksAtGenesis
  secondsPerSlot := 12
  slotsPerEpoch := 32
  epochsPerSyncCommitteePeriod := 256
  latestSlot := 100
  latestExecutionBlockNumber := 0

/-- An empty execution payload header. -/
def emptyExecution : ExecutionPayloadHeader := ⟨[], [], [], [], [], [], 0, 0, 0, 0, [], 0, [], [], [], 0, 0⟩

/-- A light client header at `slot` with state root `stateRoot`, whose execution payload is in
its body by a zero branch. -/
def zeroBranchHeader (slot : UInt64) (stateRoot : B256) : LightClientHeader where
  beacon := ⟨slot, 0, [], stateRoot, zeroBranchRoot H (getSubtreeIndex executionPayloadGindex)
    (floorlog2 executionPayloadGindex) (H.executionPayloadHeaderRoot emptyExecution)⟩
  execution := emptyExecution
  executionBranch := List.Vector.replicate _ b256Default

/-- An update finalizing slot 101 from attested slot 102, signed at slot 103 by nobody, whose
finalized header is in the attested state by a zero branch; it carries no next sync committee,
and `branch` as the next sync committee's branch. -/
def sampleUpdate (branch : Option (List.Vector B256 (floorlog2 nextSyncCommitteeGindexElectra))) :
    LightClientUpdate where
  attestedHeader := zeroBranchHeader H 102 (zeroBranchRoot H (getSubtreeIndex finalizedRootGindexElectra)
    (floorlog2 finalizedRootGindexElectra) (H.beaconBlockHeaderRoot (zeroBranchHeader H 101 []).beacon))
  nextSyncCommittee := none
  nextSyncCommitteeBranch := branch
  finalizedHeader := zeroBranchHeader H 101 []
  finalityBranch := List.Vector.replicate _ b256Default
  syncAggregate := ⟨[], []⟩
  signatureSlot := 103

/-- The sample update with a zero next sync committee branch and no next sync committee. -/
def branchOnlyUpdate : LightClientUpdate := sampleUpdate H (some (List.Vector.replicate _ b256Default))

theorem verifySupportedForkAtSlot_sample (slot : UInt64) :
    verifySupportedForkAtSlot sampleClientState slot = .ok () := by
  simp [verifySupportedForkAtSlot, ClientState.computeEpochAtSlot, ClientState.verifySupportedForkAtEpoch,
    Fault.div, sampleClientState, allForksAtGenesis, bind, Except.bind]

theorem isValidLightClientHeader_zeroBranchHeader (slot : UInt64) (stateRoot : B256) :
    isValidLightClientHeader H sampleClientState (zeroBranchHeader H slot stateRoot) = .ok () := by
  simp only [isValidLightClientHeader, getLcExecutionRoot, verifySupportedForkAtSlot_sample, bind, Except.bind,
    pure, Except.pure, zeroBranchHeader]
  exact validateMerkleBranch_zeroBranchRoot H (by decide) _ _

@[simp] theorem zeroBranchHeader_slot (slot : UInt64) (stateRoot : B256) :
    (zeroBranchHeader H slot stateRoot).beacon.slot = slot := rfl

@[simp] theorem zeroBranchHeader_stateRoot (slot : UInt64) (stateRoot : B256) :
    (zeroBranchHeader H slot stateRoot).beacon.stateRoot = stateRoot := rfl

/-- A zero branch, already of its depth, checks out against its `zeroBranchRoot`. -/
theorem isValidNormalizedMerkleBranch_zero {gindex : UInt64} (hd : floorlog2 gindex ≤ 64) (leaf : B256) :
    isValidNormalizedMerkleBranch H leaf (List.replicate (floorlog2 gindex) b256Default) gindex
      (zeroBranchRoot H (getSubtreeIndex gindex) (floorlog2 gindex) leaf) = .ok () := by
  simp [isValidNormalizedMerkleBranch, Fault.ensure, Txn.require, validateMerkleBranch_zeroBranchRoot H hd,
    bind, Except.bind]

theorem validateSlots_sample (branch : Option (List.Vector B256 (floorlog2 nextSyncCommitteeGindexElectra))) :
    validateSlots H sampleClientState (sampleUpdate H branch) 103 = .ok () := by
  simp only [validateSlots, sampleUpdate, isValidLightClientHeader_zeroBranchHeader, zeroBranchHeader_slot]
  rfl

theorem validateFinality_sample (branch : Option (List.Vector B256 (floorlog2 nextSyncCommitteeGindexElectra))) :
    validateFinality H sampleClientState (sampleUpdate H branch) = .ok () := by
  simp only [validateFinality, sampleUpdate, isValidLightClientHeader_zeroBranchHeader, finalizedRootGindexAtSlot,
    verifySupportedForkAtSlot_sample, normalizeMerkleBranch_of_length (List.Vector.toList_length _),
    zeroBranchHeader_stateRoot, bind, Except.bind, pure, Except.pure]
  exact Fault.mapErr_eq_ok.mpr (@isValidNormalizedMerkleBranch_zero H finalizedRootGindexElectra (by decide) _)

/-- **A branch without a committee panics.** An update with a next sync committee branch and
no next sync committee, valid up to that branch, makes `validate_light_client_update` unwrap
the missing committee, whatever the hashes and the BLS verifier. -/
theorem validate_branchOnlyUpdate_panics (V : BlsVerifier) (stateRoot : B256) (timestamp : UInt64)
    (current : SummarizedSyncCommittee) (next : Option SummarizedSyncCommittee) (committee : SyncCommittee) :
    validateLightClientUpdate H V sampleClientState ⟨⟨100, stateRoot, timestamp, current, next⟩, .Current committee⟩
      (branchOnlyUpdate H) 103 = .error .panic := by
  have hperiod (slot : UInt64) :
      sampleClientState.computeSyncCommitteePeriodAtSlot slot = .ok (sampleClientState.period slot) :=
    ClientState.computeSyncCommitteePeriodAtSlot_of_ne (by decide) (by decide) slot
  have hslots : (branchOnlyUpdate H).signatureSlot = 103 ∧ (branchOnlyUpdate H).attestedHeader.beacon.slot = 102 :=
    ⟨rfl, rfl⟩
  -- slots 100 to 103 are all in period 0, and the trusted committee is the current one
  have hsame : sampleClientState.period 103 = sampleClientState.period 100 := by decide
  have hrelevance : validateRelevance ⟨⟨100, stateRoot, timestamp, current, next⟩, .Current committee⟩
      (branchOnlyUpdate H) (sampleClientState.period 102) (sampleClientState.period 100) = .ok () :=
    validateRelevance_of_lt (by show (100 : UInt64) < 102; decide)
  -- past the equality check, which needs a known next committee, the branch check unwraps `none`
  have hnext : validateNextSyncCommittee H sampleClientState ⟨⟨100, stateRoot, timestamp, current, next⟩,
      .Current committee⟩ (branchOnlyUpdate H) (sampleClientState.period 102) (sampleClientState.period 100) =
      .error .panic :=
    validateNextSyncCommittee_panic rfl rfl (verifySupportedForkAtSlot_sample _)
  have hvalidSlots : validateSlots H sampleClientState (branchOnlyUpdate H) 103 = .ok () := validateSlots_sample H _
  have hfinality : validateFinality H sampleClientState (branchOnlyUpdate H) = .ok () := validateFinality_sample H _
  simp only [validateLightClientUpdate, hvalidSlots, hperiod, hfinality, hslots.1,
    hslots.2, TrustedConsensusState.finalizedSlot, hsame, validateSignaturePeriod_current, hrelevance, hnext, bind,
    Except.bind]

/-- The same update, in a header that names the stored current committee, makes `verify_header`
panic, for a verifier that aggregates the committee's keys to its aggregate key. -/
theorem verifyHeader_panics_without_next_committee (V : BlsVerifier) {aggregatePubkey : BlsPublicKey}
    (hagg : V.aggregate [] = .ok aggregatePubkey) :
    verifyHeader H V ⟨100, [], 0, SyncCommittee.toSummarizedSyncCommittee H ⟨[], aggregatePubkey⟩, none⟩
      sampleClientState 1236 ⟨.Current ⟨[], aggregatePubkey⟩, branchOnlyUpdate H, 100⟩ = .error .panic := by
  have htrusted : TrustedConsensusState.new H V sampleClientState
      ⟨100, [], 0, SyncCommittee.toSummarizedSyncCommittee H ⟨[], aggregatePubkey⟩, none⟩
      (.Current ⟨[], aggregatePubkey⟩) =
      .ok ⟨⟨100, [], 0, SyncCommittee.toSummarizedSyncCommittee H ⟨[], aggregatePubkey⟩, none⟩,
        .Current ⟨[], aggregatePubkey⟩⟩ := by
    simp [TrustedConsensusState.new, hagg, Fault.ensure, Fault.mapErr, Fault.lift, Txn.require, sampleClientState,
      Except.mapError, bind, Except.bind, pure, Except.pure]
  -- the slot at 1236 seconds after genesis is 1236 / 12 = 103
  have hslot : currentSlotAt sampleClientState 1236 = .ok 103 := rfl
  simp only [verifyHeader, htrusted, hslot, validate_branchOnlyUpdate_panics, bind, Except.bind]

end BranchOnly

/-- Hashes that take everything to the zero word. -/
def zeroHashing : Hashing := ⟨fun _ => b256Default, fun _ => b256Default, fun _ => b256Default, fun _ => b256Default,
  fun _ => b256Default⟩

/-- A BLS verifier that accepts every signature and aggregates every list of keys to the empty key. -/
def acceptingVerifier : BlsVerifier := ⟨fun _ _ _ => .ok (), fun _ => .ok []⟩

/-- The consensus state at slot 100 of the empty committee. -/
def sampleConsensusState : ConsensusState :=
  ⟨100, [], 0, SyncCommittee.toSummarizedSyncCommittee zeroHashing ⟨[], []⟩, none⟩

/-- The sample finality update, with neither a next committee nor its branch, signed by the empty
current committee. -/
def sampleHeader : Header := ⟨.Current ⟨[], []⟩, sampleUpdate zeroHashing none, 100⟩

/-- The sample header verifies: its zero branches are valid under the zero hashes, its slots
lie in period 0 above the stored slot 100, and the accepting verifier takes its signature. -/
theorem verifyHeader_sample :
    verifyHeader zeroHashing acceptingVerifier sampleConsensusState sampleClientState 1236 sampleHeader = .ok () := by
  rfl

/-- Against the sample consensus state, the update with a zero next committee branch and no next
committee makes `validate_light_client_update` panic. -/
theorem validate_panics_without_next_committee :
    validateLightClientUpdate zeroHashing acceptingVerifier sampleClientState
      ⟨sampleConsensusState, .Current ⟨[], []⟩⟩ (branchOnlyUpdate zeroHashing) 103 = .error .panic :=
  validate_branchOnlyUpdate_panics zeroHashing acceptingVerifier [] 0 _ none ⟨[], []⟩

end EthereumLightClient
