/-
# The attestation light client on Ethereum

`AttestationLightClient` trusts a fixed set of attestors, Ethereum accounts
named at deployment, of which `minRequiredSigs` must sign. It keeps its client
state, which accounts are attestors, and for each height the consensus
timestamp in seconds attested there (zero where there is none). An update
carries a `StateAttestation` (a height and a timestamp), a membership proof a
`PacketAttestation` (a height and a list of path and commitment words); each
comes with signatures over `sha256(tag || sha256(data))`, where the one-byte
tag tells the two kinds apart.

`_verifySignaturesThreshold` asks for at least `minRequiredSigs` signatures
(as `length > minRequiredSigs - 1`, in checked `uint8` arithmetic), each
recovering to a non-zero attestor that no earlier one recovered to: an inner
loop compares it with every signer seen before.

ECDSA recovery and each `abi.decode` are parameters that may fail
(`Externals`). Whether `onlyProofSubmitter` lets the caller through is an input
of each call.

Key definitions: `AttestationLightClient.State`, `AttestationLightClient.constructor`,
`AttestationLightClient.verifySignaturesThreshold`, `AttestationLightClient.updateClient`,
`AttestationLightClient.verifyMembership`, `AttestationLightClient.verifyNonMembership`,
`AttestationLightClient.step`.
-/
import IbcEureka.Solidity.SP1ICS07Tendermint

namespace AttestationLightClient

open Txn

open ICS26Router (MsgVerifyMembership MsgVerifyNonMembership)

open SP1ICS07Tendermint (UpdateResult)

/-- `IAttestationLightClientMsgs.ClientState`. -/
structure ClientState where
  attestorAddresses : List Address
  minRequiredSigs : UInt8
  latestHeight : UInt64
  isFrozen : Bool
  deriving DecidableEq, Repr

/-- `IAttestationMsgs.StateAttestation`. -/
structure StateAttestation where
  height : UInt64
  timestamp : UInt64
  deriving DecidableEq, Repr

/-- `IAttestationMsgs.PacketCompact`: two `bytes32` words. -/
structure PacketCompact where
  path : Bytes
  commitment : Bytes
  deriving DecidableEq, Repr

/-- `IAttestationMsgs.PacketAttestation`. -/
structure PacketAttestation where
  height : UInt64
  packets : List PacketCompact
  deriving DecidableEq, Repr

/-- `IAttestationMsgs.AttestationProof`. -/
structure AttestationProof where
  attestationData : Bytes
  signatures : List Bytes
  deriving DecidableEq, Repr

/-- `IAttestationLightClientErrors`, with the reverts of the libraries the contract calls. -/
inductive Revert
  | NoAttestors
  | BadQuorum (minRequired : UInt8) (attestationCount : ℕ)
  | FrozenClientState
  | FeatureNotSupported
  | ConsensusTimestampNotFound (height : UInt64)
  | InvalidSignatureLength (signature : Bytes)
  | SignatureInvalid (signature : Bytes)
  | UnknownSigner (signer : Address)
  | DuplicateSigner (signer : Address)
  | ThresholdNotMet (validSigners : ℕ) (minRequired : UInt8)
  | EmptyValue
  | EmptyPackets
  | InvalidPathLength (expectedLength providedLength : ℕ)
  | NotMember
  | NotNonMember
  | HeightMismatch (expected provided : UInt64)
  | InvalidState (height timestamp : UInt64)
  | EmptySignatures
  /-- `AccessControlUnauthorizedAccount`, from `_checkRole`. -/
  | AccessControlUnauthorizedAccount
  /-- A revert of `ECDSA.recover`, whichever of its errors. -/
  | ECDSAInvalidSignature
  /-- A revert of `abi.decode`. -/
  | AbiDecodeFailure
  /-- An arithmetic panic. -/
  | Panic
  deriving DecidableEq, Repr

/-- `ECDSA.recover`, and the `abi.decode` of each payload the contract reads (`none` where it
reverts). -/
structure Externals where
  /-- `ECDSA.recover(digest, signature)`. -/
  recover : Bytes → Bytes → Option Address
  decodeAttestationProof : Bytes → Option AttestationProof
  decodeStateAttestation : Bytes → Option StateAttestation
  decodePacketAttestation : Bytes → Option PacketAttestation
  /-- `abi.decode(value, (bytes32))`. -/
  decodeBytes32 : Bytes → Option Bytes

/-- The contract's storage. -/
structure State where
  clientState : ClientState
  /-- `_isAttestor`. -/
  isAttestor : Address → Bool
  /-- `_consensusTimestampAtHeight`: zero where no timestamp is stored. -/
  consensusTimestampAtHeight : UInt64 → UInt64

/-- `ECDSA_SIGNATURE_LENGTH`. -/
def ecdsaSignatureLength : ℕ := 65

/-- `ATTESTATION_TYPE_STATE`. -/
def attestationTypeState : UInt8 := 0x01

/-- `ATTESTATION_TYPE_PACKET`. -/
def attestationTypePacket : UInt8 := 0x02

/-- `_taggedSigningInput`: `sha256(abi.encodePacked(typeTag, sha256(data)))`. -/
def taggedSigningInput (H : Hashes) (data : Bytes) (typeTag : UInt8) : Bytes := H.sha256 (typeTag :: H.sha256 data)

/-- `clientState.isFrozen = true`. -/
@[simps]
def State.freeze (s : State) : State := { s with clientState := { s.clientState with isFrozen := true } }

/-- The write of `updateClient` at a height with no timestamp: the height becomes the latest if it
is above it, and the timestamp is stored there. -/
@[simps]
def State.storeTimestamp (s : State) (state : StateAttestation) : State :=
  { s with
    clientState :=
      if state.height > s.clientState.latestHeight then { s.clientState with latestHeight := state.height }
      else s.clientState
    consensusTimestampAtHeight := Function.update s.consensusTimestampAtHeight state.height state.timestamp }

/-- One round of the constructor's loop: `attestor` must not be an attestor yet, and becomes one. -/
def registerAttestor (isAttestor : Address → Bool) (attestor : Address) : Except Revert (Address → Bool) := do
  require (isAttestor attestor = false) (.DuplicateSigner attestor)
  pure (Function.update isAttestor attestor true)

/-- `constructor`, without the role grants. The quorum check short-circuits, so that
`minRequiredSigs - 1` is only computed when it cannot underflow. -/
def constructor (attestorAddresses : List Address) (minRequiredSigs : UInt8) (initialHeight initialTimestampSeconds : UInt64) :
    Except Revert State := do
  require (0 < attestorAddresses.length) .NoAttestors
  require (0 < minRequiredSigs ∧ (minRequiredSigs - 1).toNat < attestorAddresses.length)
    (.BadQuorum minRequiredSigs attestorAddresses.length)
  let isAttestor ← attestorAddresses.foldlM registerAttestor fun _ => false
  pure ⟨⟨attestorAddresses, minRequiredSigs, initialHeight, false⟩, isAttestor,
    Function.update (fun _ => 0) initialHeight initialTimestampSeconds⟩

/-- The `notFrozen` modifier. -/
def notFrozen (s : State) : Except Revert Unit := require (s.clientState.isFrozen = false) .FrozenClientState

/-- The `onlyProofSubmitter` modifier: anyone holds the role, or the caller does. -/
def onlyProofSubmitter (isProofSubmitter : Bool) : Except Revert Unit :=
  require (isProofSubmitter = true) .AccessControlUnauthorizedAccount

/-- `_verifySignature`: the signer `signature` recovers to, which must be a non-zero attestor. -/
def verifySignature (X : Externals) (s : State) (digest signature : Bytes) : Except Revert Address := do
  require (signature.length = ecdsaSignatureLength) (.InvalidSignatureLength signature)
  let recovered ← expect (X.recover digest signature) .ECDSAInvalidSignature
  require (recovered ≠ 0) (.SignatureInvalid signature)
  require (s.isAttestor recovered = true) (.UnknownSigner recovered)
  pure recovered

/-- The inner loop of `_verifySignaturesThreshold`: every signer seen before differs from
`recovered`. -/
def checkDuplicates (seen : List Address) (recovered : Address) : Except Revert Unit :=
  seen.forM fun prev => require (prev ≠ recovered) (.DuplicateSigner recovered)

/-- One round of the outer loop of `_verifySignaturesThreshold`. -/
def recordSigner (X : Externals) (s : State) (digest : Bytes) (seen : List Address) (sig : Bytes) :
    Except Revert (List Address) := do
  let recovered ← verifySignature X s digest sig
  checkDuplicates seen recovered
  pure (seen ++ [recovered])

/-- `_verifySignaturesThreshold`. `minRequiredSigs - 1` is checked `uint8` arithmetic, which
panics at zero. -/
def verifySignaturesThreshold (X : Externals) (s : State) (digest : Bytes) (signatures : List Bytes) :
    Except Revert Unit := do
  require (0 < signatures.length) .EmptySignatures
  require (s.clientState.minRequiredSigs ≠ 0) .Panic
  require ((s.clientState.minRequiredSigs - 1).toNat < signatures.length)
    (.ThresholdNotMet signatures.length s.clientState.minRequiredSigs)
  let _ ← signatures.foldlM (recordSigner X s digest) []
  pure ()

variable (X : Externals) (H : Hashes)

/-- `updateClient`. A height that already has a timestamp is left alone: the client freezes if
the attested timestamp differs. -/
def updateClient (s : State) (isProofSubmitter : Bool) (updateMsg : Bytes) : Except Revert (State × UpdateResult) := do
  notFrozen s
  onlyProofSubmitter isProofSubmitter
  let proof ← expect (X.decodeAttestationProof updateMsg) .AbiDecodeFailure
  verifySignaturesThreshold X s (taggedSigningInput H proof.attestationData attestationTypeState) proof.signatures
  let state ← expect (X.decodeStateAttestation proof.attestationData) .AbiDecodeFailure
  require (0 < state.height ∧ 0 < state.timestamp) (.InvalidState state.height state.timestamp)
  let existingTimestamp := s.consensusTimestampAtHeight state.height
  if existingTimestamp ≠ 0 then
    if existingTimestamp ≠ state.timestamp then pure (s.freeze, .Misbehaviour)
    else pure (s, .NoOp)
  else pure (s.storeTimestamp state, .Update)

/-- What `verifyMembership` and `verifyNonMembership` share, after their checks of the message:
the timestamp stored at the proof height, and the packet attestation of the proof, signed by a
quorum and for that height. -/
def attestedPackets (s : State) (proofBytes : Bytes) (proofHeight : UInt64) :
    Except Revert (UInt64 × PacketAttestation) := do
  let ts := s.consensusTimestampAtHeight proofHeight
  require (ts ≠ 0) (.ConsensusTimestampNotFound proofHeight)
  let proof ← expect (X.decodeAttestationProof proofBytes) .AbiDecodeFailure
  verifySignaturesThreshold X s (taggedSigningInput H proof.attestationData attestationTypePacket) proof.signatures
  let packetAttestation ← expect (X.decodePacketAttestation proof.attestationData) .AbiDecodeFailure
  require (packetAttestation.height = proofHeight) (.HeightMismatch proofHeight packetAttestation.height)
  pure (ts, packetAttestation)

/-- `verifyMembership`: some attested packet has the path's hash and the value as commitment. -/
def verifyMembership (s : State) (isProofSubmitter : Bool) (msg : MsgVerifyMembership) : Except Revert ℕ := do
  notFrozen s
  onlyProofSubmitter isProofSubmitter
  require (msg.value.length ≠ 0) .EmptyValue
  require (msg.path.length = 1) (.InvalidPathLength 1 msg.path.length)
  let (ts, packetAttestation) ← attestedPackets X H s msg.proof msg.proofHeight.revisionHeight
  let pathHash := H.keccak256 (msg.path.headD [])
  let value ← expect (X.decodeBytes32 msg.value) .AbiDecodeFailure
  require (packetAttestation.packets.length > 0) .EmptyPackets
  if packetAttestation.packets.any fun p => p.path = pathHash ∧ p.commitment = value then pure ts.toNat
  else .error .NotMember

/-- `verifyNonMembership`: the first attested packet with the path's hash has the zero
commitment. -/
def verifyNonMembership (s : State) (isProofSubmitter : Bool) (msg : MsgVerifyNonMembership) : Except Revert ℕ := do
  notFrozen s
  onlyProofSubmitter isProofSubmitter
  require (msg.path.length = 1) (.InvalidPathLength 1 msg.path.length)
  let (ts, packetAttestation) ← attestedPackets X H s msg.proof msg.proofHeight.revisionHeight
  let pathHash := H.keccak256 (msg.path.headD [])
  require (packetAttestation.packets.length > 0) .EmptyPackets
  match packetAttestation.packets.find? fun p => p.path = pathHash with
  | some packet => do
    require (packet.commitment = zeroWord) .NotNonMember
    pure ts.toNat
  | none => .error .NotMember

/-- `misbehaviour`: not supported in this version. -/
def misbehaviour (s : State) (isProofSubmitter : Bool) : Except Revert Unit := do
  notFrozen s
  onlyProofSubmitter isProofSubmitter
  .error .FeatureNotSupported

/-- The entry points that can change the state or return a proof's timestamp, each with whether
the caller passes `onlyProofSubmitter`. -/
inductive Call
  | updateClient (isProofSubmitter : Bool) (updateMsg : Bytes)
  | verifyMembership (isProofSubmitter : Bool) (msg : MsgVerifyMembership)
  | verifyNonMembership (isProofSubmitter : Bool) (msg : MsgVerifyNonMembership)
  | misbehaviour (isProofSubmitter : Bool) (misbehaviourMsg : Bytes)

/-- What a call returns. -/
inductive Output
  | updateResult (result : UpdateResult)
  | timestamp (seconds : ℕ)
  deriving DecidableEq, Repr

/-- One call: it returns, with its state and its return value, or reverts. -/
def step (s : State) : Call → Except Revert (State × List Output)
  | .updateClient isProofSubmitter updateMsg => do
    let r ← updateClient X H s isProofSubmitter updateMsg
    pure (r.1, [.updateResult r.2])
  | .verifyMembership isProofSubmitter msg => do
    let t ← verifyMembership X H s isProofSubmitter msg
    pure (s, [.timestamp t])
  | .verifyNonMembership isProofSubmitter msg => do
    let t ← verifyNonMembership X H s isProofSubmitter msg
    pure (s, [.timestamp t])
  | .misbehaviour isProofSubmitter _ => do
    misbehaviour s isProofSubmitter
    pure (s, [])

end AttestationLightClient
