/-
# The attestation light client on Solana

The `attestation` program keeps one `ClientState` account (the attestor
addresses, the threshold, the latest height and a frozen flag) and one
`ConsensusStateStore` account per height, at the address of `consensus_state`
and the height's eight little-endian bytes, holding the height and its
timestamp. `initialize` creates the client state, with no consensus state and
latest height zero. `update_client` stores the timestamp of a state
attestation in the account of its height (`init_if_needed`, so a zeroed
account where there was none), or freezes the client on a conflicting one;
the two membership instructions read an attested packet list at a height that
has a timestamp.

`verify_attestation` asks for at least `min_required_sigs` signatures, each
recovering to an attestor that no earlier one recovered to: a signature is
parsed as `r || s || v`, `secp256k1_recover` gives the public key, and the
address is the last twenty bytes of its Keccak-256. Unlike the Solidity
contract, nothing checks that the address is not zero, and `initialize` does
not keep the zero address out of the attestor set.

The attestation types are the Solidity contract's own (the program derives
them from its interface). Their ABI decoding, the Borsh decoding of a proof and
`secp256k1_recover` are parameters that may fail (`Externals`); an address is
held as its twenty bytes. The access manager's role check and the upgrade
authority are inputs of the instructions.

Key definitions: `Attestation.State`, `Attestation.recoverEthAddress`, `Attestation.verifyAttestation`,
`Attestation.initializeClient`, `Attestation.updateClient`, `Attestation.verifyMembership`,
`Attestation.verifyNonMembership`, `Attestation.step`.
-/
import Mathlib.Data.List.Sort
import IbcEureka.Solidity.AttestationLightClient
import IbcEureka.Solana.Router

namespace Attestation

open Txn

open AttestationLightClient (StateAttestation PacketAttestation)

open Ics26Router (MembershipMsg NonMembershipMsg ClientStatus Pubkey)

/-- `ETH_ADDRESS_LEN`. -/
def ethAddressLen : ℕ := 20

/-- `SECP256K1_SIGNATURE_LENGTH`. -/
def secp256k1SignatureLength : ℕ := 64

/-- `SIGNATURE_LEN`: the signature and its recovery id. -/
def signatureLen : ℕ := secp256k1SignatureLength + 1

/-- `ETH_RECOVERY_ID_OFFSET`. -/
def ethRecoveryIdOffset : UInt8 := 27

/-- `MAX_PROOF_SIZE`, 64 KiB. -/
def maxProofSize : ℕ := 64 * 1024

/-- `ClientState`, without its version. -/
structure ClientState where
  attestorAddresses : List Bytes
  minRequiredSigs : UInt8
  latestHeight : UInt64
  isFrozen : Bool
  deriving DecidableEq, Repr

/-- `ConsensusStateStore`. -/
structure ConsensusStateStore where
  height : UInt64
  timestamp : UInt64
  deriving DecidableEq, Repr

/-- An account `init_if_needed` has just created: all zero. -/
def ConsensusStateStore.zeroed : ConsensusStateStore := ⟨0, 0⟩

/-- `MembershipProof`. -/
structure MembershipProof where
  attestationData : Bytes
  signatures : List Bytes
  deriving DecidableEq, Repr

/-- `AttestationType`, the domain-separation tag. -/
inductive AttestationType
  | State
  | Packet
  deriving DecidableEq, Repr

/-- `attestation_type as u8`. -/
def AttestationType.toUInt8 : AttestationType → UInt8
  | .State => 0x01
  | .Packet => 0x02

/-- `ErrorCode`, the errors the modelled instructions raise. -/
inductive ErrorCode
  | FrozenClientState
  | NoAttestors
  | BadQuorum
  | InvalidHeight
  | InvalidState
  | HeightMismatch
  | InvalidProof
  | InvalidSignature
  | UnknownSigner
  | ThresholdNotMet
  | DuplicateSigner
  | InvalidAttestationData
  | NotMember
  | CommitmentMismatch
  | ZeroCommitment
  | NonZeroCommitment
  | EmptyValue
  | InvalidPathLength
  | EmptyAttestation
  | EmptySignatures
  | ConsensusTimestampNotFound
  | InvalidAccessManager
  | UnauthorizedDeployer
  deriving DecidableEq, Repr

/-- Why an instruction fails: the program's error, an Anchor account check, or the access
manager's role check. -/
inductive Fail
  | attestation (e : ErrorCode)
  | accountNotInitialized
  | accountAlreadyInUse
  | unauthorized
  deriving DecidableEq, Repr

/-- The decoders and the syscall the program calls (`none` where they fail). -/
structure Externals where
  /-- `MembershipProof::try_from_slice`. -/
  decodeMembershipProof : Bytes → Option MembershipProof
  /-- `StateAttestation::abi_decode`. -/
  decodeStateAttestation : Bytes → Option StateAttestation
  /-- `PacketAttestation::abi_decode`. -/
  decodePacketAttestation : Bytes → Option PacketAttestation
  /-- `secp256k1_recover(message_hash, recovery_id, signature)`: the public key. -/
  secp256k1Recover : Bytes → UInt8 → Bytes → Option Bytes

/-- The program's accounts. -/
structure State where
  clientState : Option ClientState
  /-- `app_state.am_state.access_manager`. -/
  accessManager : Option Pubkey
  consensusStates : UInt64 → Option ConsensusStateStore

/-- No account yet: the program as deployed, before `initialize`. -/
def State.empty : State := ⟨none, none, fun _ => none⟩

/-- `tagged_signing_input`: `sha256(type_tag || sha256(data))`. -/
def taggedSigningInput (H : Hashes) (data : Bytes) (attestationType : AttestationType) : Bytes :=
  H.sha256 (attestationType.toUInt8 :: H.sha256 data)

/-- `ParsedSignature`. -/
structure ParsedSignature where
  sigBytes : Bytes
  recoveryId : UInt8

/-- `parse_eth_signature`: sixty-five bytes, the last a recovery id that an Ethereum-style 27 or
28 is brought down to 0 or 1. -/
def parseEthSignature (signature : Bytes) : Except Fail ParsedSignature := do
  require (signature.length = signatureLen) (.attestation .InvalidSignature)
  let rawV := signature.getD secp256k1SignatureLength 0
  pure ⟨signature.take secp256k1SignatureLength, rawV - if rawV ≥ ethRecoveryIdOffset then ethRecoveryIdOffset else 0⟩

/-- `pubkey_to_eth_address`: the last twenty bytes of the public key's Keccak-256. -/
def pubkeyToEthAddress (H : Hashes) (pubkey : Bytes) : Bytes :=
  (H.keccak256 pubkey).drop ((H.keccak256 pubkey).length - ethAddressLen)

/-- `recover_eth_address`, as built for the chain. -/
def recoverEthAddress (X : Externals) (H : Hashes) (messageHash signature : Bytes) : Except Fail Bytes := do
  let parsed ← parseEthSignature signature
  let pubkey ← expect (X.secp256k1Recover messageHash parsed.recoveryId parsed.sigBytes) (.attestation .InvalidSignature)
  pure (pubkeyToEthAddress H pubkey)

/-- One round of the loop of `verify_attestation`: a signer not recovered before, then an attestor. -/
def recordSigner (X : Externals) (H : Hashes) (clientState : ClientState) (messageHash : Bytes)
    (recoveredAddresses : List Bytes) (rawSig : Bytes) : Except Fail (List Bytes) := do
  let recoveredAddress ← recoverEthAddress X H messageHash rawSig
  require (recoveredAddress ∉ recoveredAddresses) (.attestation .DuplicateSigner)
  require (recoveredAddress ∈ clientState.attestorAddresses) (.attestation .UnknownSigner)
  pure (recoveredAddresses ++ [recoveredAddress])

/-- `verify_attestation`. -/
def verifyAttestation (X : Externals) (H : Hashes) (clientState : ClientState) (attestationData : Bytes)
    (rawSignatures : List Bytes) (attestationType : AttestationType) : Except Fail Unit := do
  require (rawSignatures ≠ []) (.attestation .EmptySignatures)
  require (clientState.minRequiredSigs.toNat ≤ rawSignatures.length) (.attestation .ThresholdNotMet)
  let _ ← rawSignatures.foldlM (recordSigner X H clientState (taggedSigningInput H attestationData attestationType)) []
  pure ()

/-- `deserialize_membership_proof`. -/
def deserializeMembershipProof (X : Externals) (proofBytes : Bytes) : Except Fail MembershipProof := do
  require (proofBytes.length ≤ maxProofSize) (.attestation .InvalidProof)
  expect (X.decodeMembershipProof proofBytes) (.attestation .InvalidProof)

/-- The attestor set as `initialize` stores it: sorted (`sort_unstable`, in the lexicographic
order of the addresses), then without repeats (`dedup`). -/
def sortedAttestors (attestorAddresses : List Bytes) : List Bytes :=
  (attestorAddresses.insertionSort fun a b => a ≤ b).destutter (· ≠ ·)

/-- `initialize` (a keyword in Lean, hence the name): the client state and the app state are
created, by the upgrade authority. -/
def initializeClient (s : State) (isUpgradeAuthority : Bool) (attestorAddresses : List Bytes) (minRequiredSigs : UInt8)
    (accessManager : Pubkey) : Except Fail State := do
  require (s.clientState = none) .accountAlreadyInUse
  require (s.accessManager = none) .accountAlreadyInUse
  require isUpgradeAuthority (.attestation .UnauthorizedDeployer)
  require (accessManager ≠ zeroWord) (.attestation .InvalidAccessManager)
  require (attestorAddresses ≠ []) (.attestation .NoAttestors)
  require (0 < minRequiredSigs ∧ minRequiredSigs.toNat ≤ attestorAddresses.length) (.attestation .BadQuorum)
  require ((sortedAttestors attestorAddresses).length = attestorAddresses.length) (.attestation .DuplicateSigner)
  pure { s with
    clientState := some ⟨sortedAttestors attestorAddresses, minRequiredSigs, 0, false⟩
    accessManager := some accessManager }

/-- `MisbehaviourDetected`, and what the instructions return. -/
inductive Output
  | misbehaviourDetected (height existingTimestamp conflictingTimestamp : UInt64)
  | timestamp (seconds : UInt64)
  | status (status : ClientStatus)
  deriving DecidableEq, Repr

/-- The write of `update_client` at a height without a timestamp: the height becomes the latest
if it is above it, and the account at the height holds it and its timestamp. -/
def storeAttestation (s : State) (clientState : ClientState) (attestation : StateAttestation) : State :=
  { s with
    clientState := some (if attestation.height > clientState.latestHeight then
      { clientState with latestHeight := attestation.height } else clientState)
    consensusStates := Function.update s.consensusStates attestation.height (some ⟨attestation.height, attestation.timestamp⟩) }

/-- `update_client`. An account that already holds a timestamp is left as it is, and the client
freezes if the attested timestamp differs; the freeze is an `Ok`, so that it persists. -/
def updateClient (X : Externals) (H : Hashes) (s : State) (hasRole : Bool) (newHeight : UInt64) (proofBytes : Bytes) :
    Except Fail (State × List Output) := do
  let clientState ← expect s.clientState .accountNotInitialized
  let _ ← expect s.accessManager .accountNotInitialized
  require hasRole .unauthorized
  require (clientState.isFrozen = false) (.attestation .FrozenClientState)
  let proof ← deserializeMembershipProof X proofBytes
  let attestation ← expect (X.decodeStateAttestation proof.attestationData) (.attestation .InvalidAttestationData)
  verifyAttestation X H clientState proof.attestationData proof.signatures .State
  require (0 < attestation.height ∧ 0 < attestation.timestamp) (.attestation .InvalidState)
  require (newHeight = attestation.height) (.attestation .HeightMismatch)
  let existingTimestamp := ((s.consensusStates newHeight).getD .zeroed).timestamp
  if existingTimestamp ≠ 0 then
    if existingTimestamp ≠ attestation.timestamp then
      pure ({ s with clientState := some { clientState with isFrozen := true } },
        [.misbehaviourDetected attestation.height existingTimestamp attestation.timestamp])
    else pure (s, [])
  else pure (storeAttestation s clientState attestation, [])

/-- The account constraints of the two membership instructions: a live client, and a timestamp
in the account at the message's height. -/
def loadAccounts (s : State) (height : UInt64) : Except Fail (ClientState × ConsensusStateStore) := do
  let clientState ← expect s.clientState .accountNotInitialized
  require (clientState.isFrozen = false) (.attestation .FrozenClientState)
  let store ← expect (s.consensusStates height) .accountNotInitialized
  require (store.timestamp ≠ 0) (.attestation .ConsensusTimestampNotFound)
  pure (clientState, store)

/-- What the two membership instructions share after their checks of the message: the attested
packet list at the account's height, signed by a quorum. -/
def attestedPackets (X : Externals) (H : Hashes) (clientState : ClientState) (store : ConsensusStateStore)
    (proofBytes : Bytes) : Except Fail PacketAttestation := do
  let proof ← deserializeMembershipProof X proofBytes
  let attestation ← expect (X.decodePacketAttestation proof.attestationData) (.attestation .InvalidAttestationData)
  require (attestation.height = store.height) (.attestation .HeightMismatch)
  verifyAttestation X H clientState proof.attestationData proof.signatures .Packet
  require (attestation.packets ≠ []) (.attestation .EmptyAttestation)
  pure attestation

/-- `verify_membership`: the first attested packet with the path's hash has the value, a 32-byte
word, as its non-zero commitment. -/
def verifyMembership (X : Externals) (H : Hashes) (s : State) (msg : MembershipMsg) : Except Fail Unit := do
  let (clientState, store) ← loadAccounts s msg.height
  require (msg.value ≠ []) (.attestation .EmptyValue)
  require (msg.path.length = 1) (.attestation .InvalidPathLength)
  require (0 < msg.height) (.attestation .InvalidHeight)
  require (msg.height = store.height) (.attestation .HeightMismatch)
  let attestation ← attestedPackets X H clientState store msg.proof
  let packet ← expect (attestation.packets.find? fun p => p.path = H.keccak256 (msg.path.headD []))
    (.attestation .NotMember)
  require (packet.commitment ≠ zeroWord) (.attestation .ZeroCommitment)
  require (msg.value.length = 32) (.attestation .CommitmentMismatch)
  require (packet.commitment = msg.value) (.attestation .CommitmentMismatch)

/-- `verify_non_membership`: the first attested packet with the path's hash has the zero
commitment; the timestamp is the return data. -/
def verifyNonMembership (X : Externals) (H : Hashes) (s : State) (msg : NonMembershipMsg) : Except Fail UInt64 := do
  let (clientState, store) ← loadAccounts s msg.height
  require (msg.path.length = 1) (.attestation .InvalidPathLength)
  require (0 < msg.height) (.attestation .InvalidHeight)
  require (msg.height = store.height) (.attestation .HeightMismatch)
  let attestation ← attestedPackets X H clientState store msg.proof
  let packet ← expect (attestation.packets.find? fun p => p.path = H.keccak256 (msg.path.headD []))
    (.attestation .NotMember)
  require (packet.commitment = zeroWord) (.attestation .NonZeroCommitment)
  pure store.timestamp

/-- `client_status`: the account at the latest height must exist. -/
def clientStatus (s : State) : Except Fail ClientStatus := do
  let clientState ← expect s.clientState .accountNotInitialized
  let _ ← expect (s.consensusStates clientState.latestHeight) .accountNotInitialized
  pure (if clientState.isFrozen then .Frozen else .Active)

/-- The instructions that touch the client state or the consensus-state accounts. -/
inductive Instruction
  | initializeClient (isUpgradeAuthority : Bool) (attestorAddresses : List Bytes) (minRequiredSigs : UInt8)
      (accessManager : Pubkey)
  | updateClient (hasRole : Bool) (newHeight : UInt64) (proof : Bytes)
  | verifyMembership (msg : MembershipMsg)
  | verifyNonMembership (msg : NonMembershipMsg)
  | clientStatus

/-- One instruction, atomic: on failure the accounts stay as they were. -/
def step (X : Externals) (H : Hashes) (s : State) : Instruction → Except Fail (State × List Output)
  | .initializeClient isUpgradeAuthority attestorAddresses minRequiredSigs accessManager => do
    let s' ← initializeClient s isUpgradeAuthority attestorAddresses minRequiredSigs accessManager
    pure (s', [])
  | .updateClient hasRole newHeight proof => updateClient X H s hasRole newHeight proof
  | .verifyMembership msg => do
    verifyMembership X H s msg
    pure (s, [])
  | .verifyNonMembership msg => do
    let t ← verifyNonMembership X H s msg
    pure (s, [.timestamp t])
  | .clientStatus => do
    let status ← clientStatus s
    pure (s, [.status status])

end Attestation
