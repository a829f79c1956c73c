/-
# The SP1 Tendermint light client on Ethereum

`SP1ICS07Tendermint` keeps a client state and, for each revision height, the
Keccak-256 of the ABI encoding of the consensus state it trusts there (the zero
word where it has none). Headers are verified off chain by SP1 programs: a call
carries a proof with its public values, the contract checks the public values
against its own state, and only then hands the proof to the SP1 verifier. Four
programs are accepted, each under its own verification key: an update, a
(non-)membership proof against a stored consensus state, an update together
with a membership proof at the new height, and misbehaviour.

Every entry point is one step of `step`: it succeeds, or reverts and changes
nothing. Key-value pairs proven together are cached in transient storage,
which the end of a transaction clears (`Input.endTransaction`). `multicall`
runs several calls in one transaction, all or nothing: its runs are among
those of the model, where the same calls may also stop halfway.

The SP1 verifier is an arbitrary predicate on (vKey, publicValues, proof), and
each `abi.decode` of a payload is a parameter that may fail (`Externals`); a
call's own argument is taken decoded. Whether `onlyProofSubmitter` lets the
caller through, and the block time, are inputs of a call (`Env`).

Key definitions: `SP1ICS07Tendermint.State`, `SP1ICS07Tendermint.constructor`,
`SP1ICS07Tendermint.checkUpdateResult`, `SP1ICS07Tendermint.addConsensusState`,
`SP1ICS07Tendermint.updateClient`, `SP1ICS07Tendermint.membership`,
`SP1ICS07Tendermint.misbehaviour`, `SP1ICS07Tendermint.step`.
-/
import IbcEureka.Solidity.ICS26Router

namespace SP1ICS07Tendermint

open Txn

open ICS26Router (Height MsgVerifyMembership MsgVerifyNonMembership)

/-- `ALLOWED_SP1_CLOCK_DRIFT`, thirty minutes in seconds. -/
def allowedSp1ClockDrift : ℕ := 1800

/-- `IICS07TendermintMsgs.TrustThreshold`. -/
structure TrustThreshold where
  numerator : UInt8
  denominator : UInt8
  deriving DecidableEq, Repr

/-- `IICS07TendermintMsgs.SupportedZkAlgorithm`. -/
inductive SupportedZkAlgorithm
  | Groth16
  | Plonk
  deriving DecidableEq, Repr

/-- `IICS07TendermintMsgs.ClientState`; the chain id is held as its bytes. -/
structure ClientState where
  chainId : Bytes
  trustLevel : TrustThreshold
  latestHeight : Height
  trustingPeriod : UInt32
  unbondingPeriod : UInt32
  isFrozen : Bool
  zkAlgorithm : SupportedZkAlgorithm
  deriving DecidableEq, Repr

/-- `IICS07TendermintMsgs.ConsensusState`: a `uint128` time in nanoseconds and two `bytes32`. -/
structure ConsensusState where
  timestamp : BitVec 128
  root : Bytes
  nextValidatorsHash : Bytes
  deriving DecidableEq, Repr

/-- `ILightClientMsgs.UpdateResult`. -/
inductive UpdateResult
  | Update
  | Misbehaviour
  | NoOp
  deriving DecidableEq, Repr

/-- `ISP1Msgs.SP1Proof`. -/
structure SP1Proof where
  vKey : Bytes
  publicValues : Bytes
  proof : Bytes

/-- `IUpdateClientMsgs.MsgUpdateClient`. -/
structure MsgUpdateClient where
  sp1Proof : SP1Proof

/-- `IUpdateClientMsgs.UpdateClientOutput`, the public values of the update program. -/
structure UpdateClientOutput where
  clientState : ClientState
  trustedConsensusState : ConsensusState
  newConsensusState : ConsensusState
  time : BitVec 128
  trustedHeight : Height
  newHeight : Height

/-- `IMembershipMsgs.KVPair`. -/
structure KVPair where
  path : List Bytes
  value : Bytes

/-- `IMembershipMsgs.MembershipOutput`, the public values of the membership program. -/
structure MembershipOutput where
  commitmentRoot : Bytes
  kvPairs : List KVPair

/-- `IMembershipMsgs.MembershipProofType`. -/
inductive MembershipProofType
  | SP1MembershipProof
  | SP1MembershipAndUpdateClientProof

/-- `IMembershipMsgs.MembershipProof`. -/
structure MembershipProof where
  proofType : MembershipProofType
  proof : Bytes

/-- `IMembershipMsgs.SP1MembershipProof`. -/
structure SP1MembershipProof where
  sp1Proof : SP1Proof
  trustedConsensusState : ConsensusState

/-- `IMembershipMsgs.SP1MembershipAndUpdateClientProof`. -/
structure SP1MembershipAndUpdateClientProof where
  sp1Proof : SP1Proof

/-- `IUpdateClientAndMembershipMsgs.UcAndMembershipOutput`. -/
structure UcAndMembershipOutput where
  updateClientOutput : UpdateClientOutput
  kvPairs : List KVPair

/-- `IMisbehaviourMsgs.MsgSubmitMisbehaviour`. -/
structure MsgSubmitMisbehaviour where
  sp1Proof : SP1Proof

/-- `IMisbehaviourMsgs.MisbehaviourOutput`, the public values of the misbehaviour program. -/
structure MisbehaviourOutput where
  clientState : ClientState
  time : BitVec 128
  trustedHeight1 : Height
  trustedHeight2 : Height
  trustedConsensusState1 : ConsensusState
  trustedConsensusState2 : ConsensusState

/-- `ISP1ICS07TendermintErrors`, with the reverts of the libraries the contract calls. -/
inductive Revert
  | VerificationKeyMismatch (expected actual : Bytes)
  | FrozenClientState
  | ProofIsInTheFuture (now proofTimestamp : ℕ)
  | ProofIsTooOld (now proofTimestamp : ℕ)
  | ChainIdMismatch (expected actual : Bytes)
  | TrustThresholdMismatch (expectedNumerator expectedDenominator actualNumerator actualDenominator : ℕ)
  | TrustingPeriodMismatch (expected actual : ℕ)
  | UnbondingPeriodMismatch (expected actual : ℕ)
  | TrustingPeriodTooLong (trustingPeriod unbondingPeriod : ℕ)
  | ConsensusStateHashMismatch (expected actual : Bytes)
  | ConsensusStateNotFound
  | LengthIsOutOfRange (length min max : ℕ)
  | MembershipProofValueMismatch (expected actual : Bytes)
  | MembershipProofKeyNotFound (path : List Bytes)
  | ConsensusStateRootMismatch (expected actual : Bytes)
  | CannotHandleMisbehavior
  | ProofHeightMismatch (expectedRevisionNumber expectedRevisionHeight actualRevisionNumber
      actualRevisionHeight : UInt64)
  | KeyValuePairNotInCache (path : List Bytes) (value : Bytes)
  | EmptyValue
  /-- `AccessControlUnauthorizedAccount`, from `_checkRole`. -/
  | AccessControlUnauthorizedAccount
  /-- A revert of the SP1 verifier. -/
  | InvalidProof
  /-- A revert of `abi.decode`. -/
  | AbiDecodeFailure
  /-- An arithmetic panic. -/
  | Panic

/-- The four program verification keys, immutables of the contract. -/
structure ProgramVkeys where
  updateClientProgramVkey : Bytes
  membershipProgramVkey : Bytes
  updateClientAndMembershipProgramVkey : Bytes
  misbehaviourProgramVkey : Bytes

/-- The SP1 verifier, and the `abi.decode` of each payload the contract reads (`none` where the
decoding reverts). -/
structure Externals where
  /-- `VERIFIER.verifyProof(vKey, publicValues, proof)` returns, rather than reverts. -/
  verifyProof : Bytes → Bytes → Bytes → Bool
  decodeUpdateClientOutput : Bytes → Option UpdateClientOutput
  decodeMembershipProof : Bytes → Option MembershipProof
  decodeSP1MembershipProof : Bytes → Option SP1MembershipProof
  decodeSP1MembershipAndUpdateClientProof : Bytes → Option SP1MembershipAndUpdateClientProof
  decodeMembershipOutput : Bytes → Option MembershipOutput
  decodeUcAndMembershipOutput : Bytes → Option UcAndMembershipOutput
  decodeMisbehaviourOutput : Bytes → Option MisbehaviourOutput

/-- The contract's storage, and its transient storage. -/
structure State where
  clientState : ClientState
  /-- `_consensusStateHashes`: the zero word where no hash is stored. -/
  consensusStateHashes : UInt64 → Bytes
  /-- The transient storage: the timestamp cached under the hash of a proven key-value pair, zero
  where there is none. -/
  kvCache : Bytes → ℕ

/-- What a call sees of its context. -/
structure Env where
  /-- `block.timestamp`, in seconds. -/
  timestamp : ℕ
  /-- Whether `onlyProofSubmitter` lets the caller through: anyone holds the role, or the caller. -/
  isProofSubmitter : Bool

/-- `abi.encode(consensusState)`: three static words. -/
def ConsensusState.encode (cs : ConsensusState) : Bytes :=
  Abi.encode [.uint cs.timestamp.toNat, .uint (Bytes.beNat cs.root), .uint (Bytes.beNat cs.nextValidatorsHash)]

/-- `keccak256(abi.encode(consensusState))`, what the contract stores for a consensus state. -/
def hashConsensusState (H : Hashes) (cs : ConsensusState) : Bytes := H.keccak256 cs.encode

/-- `clientState.isFrozen = true`. -/
@[simps]
def State.freeze (s : State) : State := { s with clientState := { s.clientState with isFrozen := true } }

/-- The end of a transaction, which clears the transient storage. -/
@[simps]
def State.clearTransient (s : State) : State := { s with kvCache := fun _ => 0 }

/-- The write both update paths make on `Update`: the height becomes the latest if it is above
it, and the hash of the consensus state is stored at its revision height. -/
@[simps]
def addConsensusState (H : Hashes) (s : State) (height : Height) (cs : ConsensusState) : State :=
  { s with
    clientState :=
      if height.revisionHeight > s.clientState.latestHeight.revisionHeight then
        { s.clientState with latestHeight := height }
      else s.clientState
    consensusStateHashes := Function.update s.consensusStateHashes height.revisionHeight (hashConsensusState H cs) }

/-- `constructor`: the client state, and the initial consensus-state hash at its latest height.
The trusting period plus the clock drift is `uint32` arithmetic, which panics on overflow. -/
def constructor (clientState : ClientState) (consensusState : Bytes) : Except Revert State := do
  require (clientState.trustingPeriod.toNat + allowedSp1ClockDrift < 2 ^ 32) .Panic
  require (clientState.trustingPeriod.toNat + allowedSp1ClockDrift ≤ clientState.unbondingPeriod.toNat)
    (.TrustingPeriodTooLong clientState.trustingPeriod.toNat clientState.unbondingPeriod.toNat)
  pure ⟨clientState, Function.update (fun _ => zeroWord) clientState.latestHeight.revisionHeight consensusState,
    fun _ => 0⟩

/-- The `notFrozen` modifier. -/
def notFrozen (s : State) : Except Revert Unit := require (s.clientState.isFrozen = false) .FrozenClientState

/-- The `onlyProofSubmitter` modifier. -/
def onlyProofSubmitter (env : Env) : Except Revert Unit :=
  require (env.isProofSubmitter = true) .AccessControlUnauthorizedAccount

/-- `getConsensusStateHash`: the stored hash, which must not be zero. -/
def getConsensusStateHash (s : State) (revisionHeight : UInt64) : Except Revert Bytes := do
  let hash := s.consensusStateHashes revisionHeight
  require (hash ≠ zeroWord) .ConsensusStateNotFound
  pure hash

/-- `_nanosToSeconds`. -/
def nanosToSeconds (nanos : ℕ) : ℕ := nanos / 1000000000

/-- `_getTimestampInSeconds`. -/
def getTimestampInSeconds (consensusState : ConsensusState) : ℕ := nanosToSeconds consensusState.timestamp.toNat

/-- `_verifySP1Proof`. -/
def verifySP1Proof (X : Externals) (proof : SP1Proof) : Except Revert Unit :=
  require (X.verifyProof proof.vKey proof.publicValues proof.proof = true) .InvalidProof

/-- `_validateClientStateAndTime`: the proof's time lies within the clock drift before the block
time, and the public client state has the contract's chain id and trust parameters. The
subtraction cannot underflow after the first check. -/
def validateClientStateAndTime (H : Hashes) (s : State) (now : ℕ) (publicClientState : ClientState)
    (time : BitVec 128) : Except Revert Unit := do
  require (nanosToSeconds time.toNat ≤ now) (.ProofIsInTheFuture now (nanosToSeconds time.toNat))
  require (now - nanosToSeconds time.toNat ≤ allowedSp1ClockDrift) (.ProofIsTooOld now (nanosToSeconds time.toNat))
  require (publicClientState.chainId.length = s.clientState.chainId.length ∧
      H.keccak256 publicClientState.chainId = H.keccak256 s.clientState.chainId)
    (.ChainIdMismatch s.clientState.chainId publicClientState.chainId)
  require (publicClientState.trustLevel.numerator = s.clientState.trustLevel.numerator ∧
      publicClientState.trustLevel.denominator = s.clientState.trustLevel.denominator)
    (.TrustThresholdMismatch s.clientState.trustLevel.numerator.toNat s.clientState.trustLevel.denominator.toNat
      publicClientState.trustLevel.numerator.toNat publicClientState.trustLevel.denominator.toNat)
  require (publicClientState.trustingPeriod = s.clientState.trustingPeriod)
    (.TrustingPeriodMismatch s.clientState.trustingPeriod.toNat publicClientState.trustingPeriod.toNat)
  require (publicClientState.unbondingPeriod = s.clientState.unbondingPeriod)
    (.UnbondingPeriodMismatch s.clientState.unbondingPeriod.toNat publicClientState.unbondingPeriod.toNat)

/-- The check the three validations make of each trusted consensus state: the contract stores
its hash at the trusted height. -/
def checkTrustedConsensusState (H : Hashes) (s : State) (trustedHeight : UInt64)
    (trustedConsensusState : ConsensusState) : Except Revert Unit := do
  let outputConsensusStateHash := hashConsensusState H trustedConsensusState
  let storedConsensusStateHash ← getConsensusStateHash s trustedHeight
  require (outputConsensusStateHash = storedConsensusStateHash)
    (.ConsensusStateHashMismatch storedConsensusStateHash outputConsensusStateHash)

/-- `_validateUpdateClientPublicValues`. -/
def validateUpdateClientPublicValues (H : Hashes) (s : State) (now : ℕ) (output : UpdateClientOutput) :
    Except Revert Unit := do
  validateClientStateAndTime H s now output.clientState output.time
  checkTrustedConsensusState H s output.trustedHeight.revisionHeight output.trustedConsensusState

/-- `_validateMisbehaviourOutput`. -/
def validateMisbehaviourOutput (H : Hashes) (s : State) (now : ℕ) (output : MisbehaviourOutput) :
    Except Revert Unit := do
  validateClientStateAndTime H s now output.clientState output.time
  checkTrustedConsensusState H s output.trustedHeight1.revisionHeight output.trustedConsensusState1
  checkTrustedConsensusState H s output.trustedHeight2.revisionHeight output.trustedConsensusState2

/-- `_validateMembershipOutput`: the trusted consensus state is the one stored at the proof
height, and the proven root is its root. -/
def validateMembershipOutput (H : Hashes) (s : State) (outputCommitmentRoot : Bytes) (proofHeight : UInt64)
    (trustedConsensusState : ConsensusState) : Except Revert Unit := do
  checkTrustedConsensusState H s proofHeight trustedConsensusState
  require (outputCommitmentRoot = trustedConsensusState.root)
    (.ConsensusStateRootMismatch trustedConsensusState.root outputCommitmentRoot)

/-- `_checkUpdateResult`: `Update` where nothing is stored at the new height; `Misbehaviour` where
another consensus state is, or the new one is not after the trusted one; `NoOp` otherwise. -/
def checkUpdateResult (H : Hashes) (s : State) (output : UpdateClientOutput) : UpdateResult :=
  let consensusStateHash := s.consensusStateHashes output.newHeight.revisionHeight
  if consensusStateHash = zeroWord then .Update
  else if consensusStateHash ≠ hashConsensusState H output.newConsensusState ∨
      output.trustedConsensusState.timestamp ≥ output.newConsensusState.timestamp then .Misbehaviour
  else .NoOp

/-- `Paths.equal`: as many keys, each of the same length and Keccak-256. -/
def Paths.equal (H : Hashes) (a b : List Bytes) : Bool :=
  a.length == b.length && (a.zip b).all fun p => p.1.length == p.2.length && H.keccak256 p.1 == H.keccak256 p.2

/-- The loop of both membership handlers over the proven key-value pairs: the first pair at
`kvPath` must hold `kvValue`. -/
def findKvPair (H : Hashes) (kvPairs : List KVPair) (kvPath : List Bytes) (kvValue : Bytes) :
    Except Revert Unit :=
  match kvPairs.find? fun kv => Paths.equal H kv.path kvPath with
  | some kv =>
    require (kv.value.length = kvValue.length ∧ H.keccak256 kv.value = H.keccak256 kvValue)
      (.MembershipProofValueMismatch kvValue kv.value)
  | none => .error (.MembershipProofKeyNotFound kvPath)

/-- `keccak256(abi.encode(proofHeight, kvPair))`, the transient key of a proven pair. -/
def kvPairHash (H : Hashes) (proofHeight : UInt64) (kvPair : KVPair) : Bytes :=
  H.keccak256 (Abi.encode [.uint proofHeight.toNat, .tuple [.array (kvPair.path.map .bytes), .bytes kvPair.value]])

/-- `_cacheKvPairs`. -/
@[simps]
def cacheKvPairs (H : Hashes) (s : State) (proofHeight : UInt64) (kvPairs : List KVPair) (timestamp : ℕ) : State :=
  { s with
    kvCache := kvPairs.foldl (fun cache kv => Function.update cache (kvPairHash H proofHeight kv) timestamp)
      s.kvCache }

/-- `_getCachedKvPair`. -/
def getCachedKvPair (H : Hashes) (s : State) (proofHeight : UInt64) (kvPair : KVPair) : Except Revert ℕ := do
  let timestamp := s.kvCache (kvPairHash H proofHeight kvPair)
  require (timestamp ≠ 0) (.KeyValuePairNotInCache kvPair.path kvPair.value)
  pure timestamp

/-- The bound both membership handlers put on the number of proven pairs. -/
def checkKvPairsLength (kvPairs : List KVPair) : Except Revert Unit :=
  require (0 < kvPairs.length ∧ kvPairs.length ≤ 65535) (.LengthIsOutOfRange kvPairs.length 1 65535)

/-- The cache write both membership handlers end with: only for more than one pair. -/
def cacheIfMany (H : Hashes) (s : State) (proofHeight : UInt64) (kvPairs : List KVPair) (timestamp : ℕ) : State :=
  if kvPairs.length > 1 then cacheKvPairs H s proofHeight kvPairs timestamp else s

variable (P : ProgramVkeys) (X : Externals) (H : Hashes)

/-- `_handleSP1MembershipProof`: a membership program proof against the consensus state stored at
the proof height. -/
def handleSP1MembershipProof (s : State) (proofHeight : Height) (proofBytes : Bytes) (kvPath : List Bytes)
    (kvValue : Bytes) : Except Revert (State × ℕ) := do
  let proof ← expect (X.decodeSP1MembershipProof proofBytes) .AbiDecodeFailure
  require (proof.sp1Proof.vKey = P.membershipProgramVkey)
    (.VerificationKeyMismatch P.membershipProgramVkey proof.sp1Proof.vKey)
  let output ← expect (X.decodeMembershipOutput proof.sp1Proof.publicValues) .AbiDecodeFailure
  checkKvPairsLength output.kvPairs
  findKvPair H output.kvPairs kvPath kvValue
  validateMembershipOutput H s output.commitmentRoot proofHeight.revisionHeight proof.trustedConsensusState
  verifySP1Proof X proof.sp1Proof
  pure (cacheIfMany H s proofHeight.revisionHeight output.kvPairs proof.trustedConsensusState.timestamp.toNat,
    getTimestampInSeconds proof.trustedConsensusState)

/-- The update-result block of `_handleSP1UpdateClientAndMembership`: `Update` stores the new
consensus state at the proof height, `Misbehaviour` reverts, `NoOp` changes nothing. -/
def updateForMembership (s : State) (proofHeight : Height) (output : UpdateClientOutput) : Except Revert State :=
  match checkUpdateResult H s output with
  | .Update => pure (addConsensusState H s proofHeight output.newConsensusState)
  | .Misbehaviour => .error .CannotHandleMisbehavior
  | .NoOp => pure s

/-- `_handleSP1UpdateClientAndMembership`: an update to the proof height, proven together with the
key-value pairs at the new consensus state. -/
def handleSP1UpdateClientAndMembership (s : State) (now : ℕ) (proofHeight : Height) (proofBytes : Bytes)
    (kvPath : List Bytes) (kvValue : Bytes) : Except Revert (State × ℕ) := do
  let proof ← expect (X.decodeSP1MembershipAndUpdateClientProof proofBytes) .AbiDecodeFailure
  require (proof.sp1Proof.vKey = P.updateClientAndMembershipProgramVkey)
    (.VerificationKeyMismatch P.updateClientAndMembershipProgramVkey proof.sp1Proof.vKey)
  let output ← expect (X.decodeUcAndMembershipOutput proof.sp1Proof.publicValues) .AbiDecodeFailure
  checkKvPairsLength output.kvPairs
  let uc := output.updateClientOutput
  require (proofHeight.revisionHeight = uc.newHeight.revisionHeight ∧
      proofHeight.revisionNumber = uc.newHeight.revisionNumber)
    (.ProofHeightMismatch proofHeight.revisionNumber proofHeight.revisionHeight uc.newHeight.revisionNumber
      uc.newHeight.revisionHeight)
  validateUpdateClientPublicValues H s now uc
  verifySP1Proof X proof.sp1Proof
  let s₁ ← updateForMembership H s proofHeight uc
  findKvPair H output.kvPairs kvPath kvValue
  validateMembershipOutput H s₁ uc.newConsensusState.root uc.newHeight.revisionHeight uc.newConsensusState
  pure (cacheIfMany H s₁ proofHeight.revisionHeight output.kvPairs uc.newConsensusState.timestamp.toNat,
    getTimestampInSeconds uc.newConsensusState)

/-- `_membership`: an empty proof reads the cache, any other is decoded and handled by type. -/
def membership (s : State) (now : ℕ) (proof : Bytes) (proofHeight : Height) (path : List Bytes) (value : Bytes) :
    Except Revert (State × ℕ) :=
  if proof.length = 0 then do
    let timestamp ← getCachedKvPair H s proofHeight.revisionHeight ⟨path, value⟩
    pure (s, nanosToSeconds timestamp)
  else do
    let membershipProof ← expect (X.decodeMembershipProof proof) .AbiDecodeFailure
    match membershipProof.proofType with
    | .SP1MembershipProof => handleSP1MembershipProof P X H s proofHeight membershipProof.proof path value
    | .SP1MembershipAndUpdateClientProof =>
      handleSP1UpdateClientAndMembership P X H s now proofHeight membershipProof.proof path value

/-- `updateClient`. On `NoOp` it returns before the proof is verified. -/
def updateClient (s : State) (env : Env) (msgUpdateClient : MsgUpdateClient) :
    Except Revert (State × UpdateResult) := do
  notFrozen s
  onlyProofSubmitter env
  require (msgUpdateClient.sp1Proof.vKey = P.updateClientProgramVkey)
    (.VerificationKeyMismatch P.updateClientProgramVkey msgUpdateClient.sp1Proof.vKey)
  let output ← expect (X.decodeUpdateClientOutput msgUpdateClient.sp1Proof.publicValues) .AbiDecodeFailure
  validateUpdateClientPublicValues H s env.timestamp output
  match checkUpdateResult H s output with
  | .Update => do
    verifySP1Proof X msgUpdateClient.sp1Proof
    pure (addConsensusState H s output.newHeight output.newConsensusState, .Update)
  | .Misbehaviour => do
    verifySP1Proof X msgUpdateClient.sp1Proof
    pure (s.freeze, .Misbehaviour)
  | .NoOp => pure (s, .NoOp)

/-- `verifyMembership`. -/
def verifyMembership (s : State) (env : Env) (msg : MsgVerifyMembership) : Except Revert (State × ℕ) := do
  notFrozen s
  onlyProofSubmitter env
  require (0 < msg.value.length) .EmptyValue
  membership P X H s env.timestamp msg.proof msg.proofHeight msg.path msg.value

/-- `verifyNonMembership`: membership of the empty value. -/
def verifyNonMembership (s : State) (env : Env) (msg : MsgVerifyNonMembership) : Except Revert (State × ℕ) := do
  notFrozen s
  onlyProofSubmitter env
  membership P X H s env.timestamp msg.proof msg.proofHeight msg.path []

/-- `misbehaviour`: a proven misbehaviour against two trusted consensus states freezes the
client. -/
def misbehaviour (s : State) (env : Env) (msgSubmitMisbehaviour : MsgSubmitMisbehaviour) : Except Revert State := do
  notFrozen s
  onlyProofSubmitter env
  require (msgSubmitMisbehaviour.sp1Proof.vKey = P.misbehaviourProgramVkey)
    (.VerificationKeyMismatch P.misbehaviourProgramVkey msgSubmitMisbehaviour.sp1Proof.vKey)
  let output ← expect (X.decodeMisbehaviourOutput msgSubmitMisbehaviour.sp1Proof.publicValues) .AbiDecodeFailure
  validateMisbehaviourOutput H s env.timestamp output
  verifySP1Proof X msgSubmitMisbehaviour.sp1Proof
  pure s.freeze

/-- The entry points. -/
inductive Call
  | updateClient (msgUpdateClient : MsgUpdateClient)
  | verifyMembership (msg : MsgVerifyMembership)
  | verifyNonMembership (msg : MsgVerifyNonMembership)
  | misbehaviour (msgSubmitMisbehaviour : MsgSubmitMisbehaviour)

/-- A call in its context, or the end of a transaction. -/
inductive Input
  | call (env : Env) (c : Call)
  | endTransaction

/-- What a call returns. -/
inductive Output
  | updateResult (result : UpdateResult)
  | timestamp (seconds : ℕ)
  deriving DecidableEq, Repr

/-- One input: a call either returns, with its state and its return value, or reverts. -/
def step (s : State) : Input → Except Revert (State × List Output)
  | .call env (.updateClient msgUpdateClient) => do
    let r ← updateClient P X H s env msgUpdateClient
    pure (r.1, [.updateResult r.2])
  | .call env (.verifyMembership msg) => do
    let r ← verifyMembership P X H s env msg
    pure (r.1, [.timestamp r.2])
  | .call env (.verifyNonMembership msg) => do
    let r ← verifyNonMembership P X H s env msg
    pure (r.1, [.timestamp r.2])
  | .call env (.misbehaviour msgSubmitMisbehaviour) => do
    let s' ← misbehaviour P X H s env msgSubmitMisbehaviour
    pure (s', [])
  | .endTransaction => pure (s.clearTransient, [])

end SP1ICS07Tendermint
