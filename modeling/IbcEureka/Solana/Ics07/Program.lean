/-
# The Solana Tendermint light client

The `ics07-tendermint` program keeps one client: its `ClientState` (trust
parameters, the latest height and the height it was frozen at, zero while
live) and one `ConsensusStateStore` account per verified height, at the
address of `consensus_state` and the height's eight little-endian bytes. A
relayer uploads a header in chunks, then `assemble_and_update_client` reads
them back, has the Tendermint crates verify the header against the consensus
state it names as trusted, and stores the new consensus state: in a fresh
account (`UpdateSuccess`, and the new height becomes the latest), in an
account that already holds it (`NoOp`), or over a conflicting or
non-increasing one, which freezes the client (`Misbehaviour`). Misbehaviour
evidence is uploaded and submitted the same way and freezes the client.

The accounts are kept by family, each keyed by its seeds after the family's
own first seed (`State`): every family's seeds are fixed-width after a
distinct literal, so an address is one family's account for one key. The
Tendermint crates (header and misbehaviour decoding, `update_client`,
`check_for_misbehaviour`) and the access manager's role check are not
modelled: `LightClient` holds the crates as functions, and each instruction
says whether its signer holds the relayer role.

Key definitions: `Ics07Tendermint.State`, `Ics07Tendermint.LightClient`,
`Ics07Tendermint.storeConsensusState`, `Ics07Tendermint.assembleAndUpdateClient`,
`Ics07Tendermint.assembleAndSubmitMisbehaviour`, `Ics07Tendermint.step`.
-/
import IbcEureka.Lib.Txn
import IbcEureka.Packet

namespace Ics07Tendermint

open Txn

/-- `CHUNK_DATA_SIZE` of `solana_ibc_constants`. -/
def chunkDataSize : ℕ := 900

/-- `IbcHeight`. -/
structure IbcHeight where
  revisionNumber : UInt64
  revisionHeight : UInt64
  deriving DecidableEq, Repr

/-- `ClientState`. -/
structure ClientState where
  chainId : Bytes
  trustLevelNumerator : UInt64
  trustLevelDenominator : UInt64
  trustingPeriod : UInt64
  unbondingPeriod : UInt64
  maxClockDrift : UInt64
  frozenHeight : IbcHeight
  latestHeight : IbcHeight
  deriving DecidableEq, Repr

/-- `ClientState::is_frozen`. -/
def ClientState.isFrozen (cs : ClientState) : Bool := cs.frozenHeight.revisionHeight > 0

/-- `ClientState::freeze`. -/
def ClientState.freeze (cs : ClientState) : ClientState := { cs with frozenHeight := cs.latestHeight }

def ClientState.setLatestHeight (cs : ClientState) (h : IbcHeight) : ClientState := { cs with latestHeight := h }

@[simp] theorem ClientState.freeze_latestHeight (cs : ClientState) : cs.freeze.latestHeight = cs.latestHeight := rfl
@[simp] theorem ClientState.freeze_frozenHeight (cs : ClientState) : cs.freeze.frozenHeight = cs.latestHeight := rfl
@[simp] theorem ClientState.setLatestHeight_latestHeight (cs : ClientState) (h : IbcHeight) :
    (cs.setLatestHeight h).latestHeight = h := rfl
@[simp] theorem ClientState.setLatestHeight_frozenHeight (cs : ClientState) (h : IbcHeight) :
    (cs.setLatestHeight h).frozenHeight = cs.frozenHeight := rfl

/-- `ConsensusState`. -/
structure ConsensusState where
  timestamp : UInt64
  root : Bytes
  nextValidatorsHash : Bytes
  deriving DecidableEq, Repr

/-- `ConsensusStateStore`. -/
structure ConsensusStateStore where
  height : UInt64
  consensusState : ConsensusState
  deriving DecidableEq, Repr

/-- The store `init_if_needed` creates: all zero. -/
def ConsensusStateStore.zeroed : ConsensusStateStore := ⟨0, ⟨0, zeroWord, zeroWord⟩⟩

/-- `ConsensusStateStore::is_uninitialized`: heights start at 1. -/
def ConsensusStateStore.isUninitialized (store : ConsensusStateStore) : Bool := store.height == 0

/-- `UpdateResult`. -/
inductive UpdateResult
  | UpdateSuccess
  | NoOp
  | Misbehaviour
  deriving DecidableEq, Repr

/-- `HeaderChunk`. -/
structure HeaderChunk where
  submitter : Bytes
  chunkData : Bytes
  deriving DecidableEq, Repr

/-- `SignatureVerification`. -/
structure SignatureVerification where
  isValid : Bool
  submitter : Bytes
  deriving DecidableEq, Repr

/-- `SignatureData`. -/
structure SignatureData where
  signatureHash : Bytes
  pubkey : Bytes
  msg : Bytes
  signature : Bytes
  deriving DecidableEq, Repr

/-- `UploadChunkParams`. -/
structure UploadChunkParams where
  targetHeight : UInt64
  chunkIndex : UInt8
  chunkData : Bytes
  deriving DecidableEq, Repr

/-- `UploadMisbehaviourChunkParams`. -/
structure UploadMisbehaviourChunkParams where
  chunkIndex : UInt8
  chunkData : Bytes
  deriving DecidableEq, Repr

/-- The program's accounts, by family. -/
structure State where
  clientState : Option ClientState
  /-- `app_state.am_state.access_manager`. -/
  accessManager : Option Bytes
  consensusStates : UInt64 → Option ConsensusStateStore
  headerChunks : Bytes × UInt64 × UInt8 → Option HeaderChunk
  misbehaviourChunks : Bytes × UInt8 → Option Bytes
  signatureVerifications : Bytes → Option SignatureVerification

/-- An account passed among the remaining accounts of an instruction. -/
inductive AccountRef
  | consensusStateStore (height : UInt64)
  | headerChunk (submitter : Bytes) (targetHeight : UInt64) (chunkIndex : UInt8)
  | misbehaviourChunk (submitter : Bytes) (chunkIndex : UInt8)
  | signatureVerification (signatureHash : Bytes)
  /-- Any other account: the client state, the app state, or one the program does not own. -/
  | other
  deriving DecidableEq, Repr

/-- `ErrorCode`, the errors the modelled instructions raise. -/
inductive ErrorCode
  | ClientFrozen
  | ClientAlreadyFrozen
  | InvalidChainId
  | InvalidTrustLevel
  | InvalidPeriods
  | InvalidMaxClockDrift
  | InvalidHeight
  | HeightMismatch
  | InvalidHeader
  | UpdateClientFailed
  | InvalidMisbehaviour
  | MisbehaviourCheckFailed
  | InvalidChunkAccount
  | ChunkDataTooLarge
  | InvalidAccountData
  | SerializationError
  | InvalidAccountOwner
  | InvalidAccessManager
  | UnauthorizedDeployer
  deriving DecidableEq, Repr

/-- Why an instruction fails: the program's error, an Anchor account check, the access
manager's role check, or a panic. -/
inductive Fail
  | tendermint (e : ErrorCode)
  | accountNotInitialized
  | accountAlreadyInUse
  | unauthorized
  | panic
  deriving DecidableEq, Repr

/-- No account yet: the program as deployed, before `initialize`. -/
def State.empty : State := ⟨none, none, fun _ => none, fun _ => none, fun _ => none, fun _ => none⟩

@[simps] def State.setClientState (s : State) (cs : ClientState) : State := { s with clientState := some cs }

@[simps] def State.setAccessManager (s : State) (am : Bytes) : State := { s with accessManager := some am }

@[simps] def State.setConsensusState (s : State) (h : UInt64) (store : ConsensusStateStore) : State :=
  { s with consensusStates := Function.update s.consensusStates h (some store) }

@[simps] def State.setHeaderChunk (s : State) (k : Bytes × UInt64 × UInt8) (chunk : Option HeaderChunk) : State :=
  { s with headerChunks := Function.update s.headerChunks k chunk }

@[simps] def State.setMisbehaviourChunk (s : State) (k : Bytes × UInt8) (chunkData : Option Bytes) : State :=
  { s with misbehaviourChunks := Function.update s.misbehaviourChunks k chunkData }

@[simps] def State.setSignatureVerification (s : State) (k : Bytes) (sv : Option SignatureVerification) : State :=
  { s with signatureVerifications := Function.update s.signatureVerifications k sv }

/-- The Tendermint crates the program calls, with their header and misbehaviour types. -/
structure LightClient where
  Header : Type
  Misbehaviour : Type
  /-- `deserialize_header`. -/
  deserializeHeader : Bytes → Option Header
  /-- `header.trusted_height`. -/
  trustedHeight : Header → IbcHeight
  /-- `update_client` on the client state, the trusted consensus state, the header and the time in
  nanoseconds: the new height, with the new consensus state if it converts to the program's; `none`
  if the header is rejected. -/
  updateClient : ClientState → ConsensusState → Header → ℕ → Option (IbcHeight × Option ConsensusState)
  /-- `deserialize_misbehaviour`. -/
  deserializeMisbehaviour : Bytes → Option Misbehaviour
  /-- `check_for_misbehaviour`: the two trusted heights of the evidence, or `none` if it rejects. -/
  checkForMisbehaviour : ClientState → Misbehaviour → ConsensusState → ConsensusState → ℕ →
    Option (IbcHeight × IbcHeight)

/-- `secs_to_nanos`: `secs as u128 * 1_000_000_000`, which panics on overflow. -/
def secsToNanos (secs : Int) : Except Fail ℕ := do
  let s := (secs % 2 ^ 128).toNat
  require (s * 1000000000 < 2 ^ 128) .panic
  pure (s * 1000000000)

/-- The conversion of the client state for the Tendermint crates: `Height::new` rejects a zero
latest height, and its `expect` panics. -/
def checkLatestHeight (cs : ClientState) : Except Fail Unit :=
  require (cs.latestHeight.revisionHeight ≠ 0) .panic

def loadClientState (s : State) : Except Fail ClientState := expect s.clientState .accountNotInitialized

def loadAppState (s : State) : Except Fail Bytes := expect s.accessManager .accountNotInitialized

def loadConsensusStateStore (s : State) (h : UInt64) : Except Fail ConsensusStateStore :=
  expect (s.consensusStates h) .accountNotInitialized

/-- `initialize` (a keyword in Lean, hence the name). -/
def initializeClient (s : State) (isUpgradeAuthority : Bool) (clientState : ClientState) (consensusState : ConsensusState)
    (accessManager : Bytes) : Except Fail (State × List UpdateResult) := do
  require (s.clientState = none) .accountAlreadyInUse
  require (s.consensusStates clientState.latestHeight.revisionHeight = none) .accountAlreadyInUse
  require (s.accessManager = none) .accountAlreadyInUse
  require isUpgradeAuthority (.tendermint .UnauthorizedDeployer)
  require (accessManager ≠ zeroWord) (.tendermint .InvalidAccessManager)
  require (clientState.chainId ≠ []) (.tendermint .InvalidChainId)
  require (clientState.trustLevelNumerator > 0 ∧ clientState.trustLevelNumerator ≤ clientState.trustLevelDenominator ∧
    clientState.trustLevelDenominator > 0) (.tendermint .InvalidTrustLevel)
  require (clientState.trustingPeriod > 0 ∧ clientState.unbondingPeriod > 0 ∧
    clientState.trustingPeriod < clientState.unbondingPeriod) (.tendermint .InvalidPeriods)
  require (clientState.maxClockDrift > 0) (.tendermint .InvalidMaxClockDrift)
  require (clientState.latestHeight.revisionHeight > 0) (.tendermint .InvalidHeight)
  let latestHeight := clientState.latestHeight.revisionHeight
  pure (((s.setClientState clientState).setConsensusState latestHeight ⟨latestHeight, consensusState⟩).setAccessManager
    accessManager, [])

/-- The two chunk uploads: `init_if_needed` on the chunk account, the client state and the app
state loaded, the role, a live client and the chunk's size checked, then the chunk written. -/
def uploadChunk (s : State) (hasRole : Bool) (chunkData : Bytes) (write : State → State) :
    Except Fail (State × List UpdateResult) := do
  let clientState ← loadClientState s
  let _ ← loadAppState s
  require hasRole .unauthorized
  require (clientState.isFrozen = false) (.tendermint .ClientFrozen)
  require (chunkData.length ≤ chunkDataSize) (.tendermint .ChunkDataTooLarge)
  pure (write s, [])

/-- `upload_header_chunk`. -/
def uploadHeaderChunk (s : State) (submitter : Bytes) (hasRole : Bool) (params : UploadChunkParams) :
    Except Fail (State × List UpdateResult) :=
  uploadChunk s hasRole params.chunkData fun s =>
    s.setHeaderChunk (submitter, params.targetHeight, params.chunkIndex) (some ⟨submitter, params.chunkData⟩)

/-- `upload_misbehaviour_chunk`. -/
def uploadMisbehaviourChunk (s : State) (submitter : Bytes) (hasRole : Bool) (params : UploadMisbehaviourChunkParams) :
    Except Fail (State × List UpdateResult) :=
  uploadChunk s hasRole params.chunkData fun s =>
    s.setMisbehaviourChunk (submitter, params.chunkIndex) (some params.chunkData)

/-- The loop of both `assemble_chunks`: the account at each index must be that index's chunk
(`InvalidChunkAccount`) and exist, owned by the program (`InvalidAccountOwner`); their data are
laid end to end. -/
def readChunks (addressAt : ℕ → AccountRef) (dataAt : ℕ → Option Bytes) : ℕ → List AccountRef → Except Fail Bytes
  | _, [] => pure []
  | index, account :: rest => do
    require (account = addressAt index) (.tendermint .InvalidChunkAccount)
    let chunkData ← expect (dataAt index) (.tendermint .InvalidAccountOwner)
    let more ← readChunks addressAt dataAt (index + 1) rest
    pure (chunkData ++ more)

/-- `assemble_chunks` of `assemble_and_update_client`: the first `chunkCount` remaining accounts
are the header's chunks under the submitter and the target height. -/
def assembleChunks (s : State) (submitter : Bytes) (targetHeight : UInt64) (chunkCount : ℕ)
    (remaining : List AccountRef) : Except Fail Bytes := do
  -- the slice `remaining_accounts[..chunk_count]` panics on too few accounts
  require (chunkCount ≤ remaining.length) .panic
  readChunks (fun index => .headerChunk submitter targetHeight (UInt8.ofNat index))
    (fun index => (s.headerChunks (submitter, targetHeight, UInt8.ofNat index)).map HeaderChunk.chunkData) 0
    (remaining.take chunkCount)

/-- `verify_and_update_header`: the new height and consensus state the crates derive. -/
def verifyAndUpdateHeader (L : LightClient) (clientState : ClientState) (trustedState : ConsensusState)
    (header : L.Header) (unixTimestamp : Int) : Except Fail (IbcHeight × ConsensusState) := do
  checkLatestHeight clientState
  let currentTime ← secsToNanos unixTimestamp
  let output ← expect (L.updateClient clientState trustedState header currentTime) (.tendermint .UpdateClientFailed)
  let newConsensusState ← expect output.2 (.tendermint .SerializationError)
  pure (output.1, newConsensusState)

/-- `store_consensus_state`: the store and the client state after storing `newConsensusState` at
`height`, and the result. -/
def storeConsensusState (store : ConsensusStateStore) (height : UInt64) (newConsensusState trustedConsensusState :
    ConsensusState) (clientState : ClientState) : ConsensusStateStore × ClientState × UpdateResult :=
  if !store.isUninitialized then
    if store.consensusState ≠ newConsensusState ∨ trustedConsensusState.timestamp ≥ newConsensusState.timestamp then
      (store, clientState.freeze, .Misbehaviour)
    else (store, clientState, .NoOp)
  else (⟨height, newConsensusState⟩, clientState, .UpdateSuccess)

/-- The last step of `process_header_update`: the new height becomes the latest only on
`UpdateSuccess`. -/
def updateLatestHeight (clientState : ClientState) (result : UpdateResult) (newHeight : IbcHeight) : ClientState :=
  if result = .UpdateSuccess then clientState.setLatestHeight newHeight else clientState

/-- `process_header_update`, on the loaded client state, trusted store and target store: the
target store and the client state after the update, and its result. -/
def processHeaderUpdate (L : LightClient) (clientState : ClientState) (trusted store : ConsensusStateStore)
    (headerBytes : Bytes) (targetHeight trustedHeight : UInt64) (unixTimestamp : Int) :
    Except Fail (ConsensusStateStore × ClientState × UpdateResult) := do
  let header ← expect (L.deserializeHeader headerBytes) (.tendermint .InvalidHeader)
  require ((L.trustedHeight header).revisionHeight = trustedHeight) (.tendermint .HeightMismatch)
  let verified ← verifyAndUpdateHeader L clientState trusted.consensusState header unixTimestamp
  require (verified.1.revisionHeight = targetHeight) (.tendermint .HeightMismatch)
  let stored := storeConsensusState store verified.1.revisionHeight verified.2 trusted.consensusState clientState
  pure (stored.1, updateLatestHeight stored.2.1 stored.2.2 verified.1, stored.2.2)

/-- `assemble_and_update_client`; it returns the update's result. -/
def assembleAndUpdateClient (L : LightClient) (s : State) (submitter : Bytes) (hasRole : Bool) (targetHeight : UInt64)
    (chunkCount : UInt8) (trustedHeight : UInt64) (remaining : List AccountRef) (unixTimestamp : Int) :
    Except Fail (State × List UpdateResult) := do
  let clientState ← loadClientState s
  let _ ← loadAppState s
  let trusted ← loadConsensusStateStore s trustedHeight
  -- `init_if_needed`: a store not there yet is created zeroed
  let store := (s.consensusStates targetHeight).getD .zeroed
  require hasRole .unauthorized
  require (clientState.isFrozen = false) (.tendermint .ClientFrozen)
  let headerBytes ← assembleChunks s submitter targetHeight chunkCount.toNat remaining
  let updated ← processHeaderUpdate L clientState trusted store headerBytes targetHeight trustedHeight unixTimestamp
  pure ((s.setClientState updated.2.1).setConsensusState targetHeight updated.1, [updated.2.2])

/-- `is_owned_by_submitter` and the close of `cleanup_incomplete_upload`, for one remaining
account: a header chunk or a signature verification of the submitter is closed. -/
def cleanupUploadAccount (submitter : Bytes) (s : State) : AccountRef → State
  | .headerChunk sub h i =>
    match s.headerChunks (sub, h, i) with
    | some chunk => if chunk.submitter = submitter then s.setHeaderChunk (sub, h, i) none else s
    | none => s
  | .signatureVerification hash =>
    match s.signatureVerifications hash with
    | some sv => if sv.submitter = submitter then s.setSignatureVerification hash none else s
    | none => s
  | _ => s

/-- `cleanup_incomplete_upload`. -/
def cleanupIncompleteUpload (s : State) (submitter : Bytes) (remaining : List AccountRef) :
    Except Fail (State × List UpdateResult) :=
  pure (remaining.foldl (cleanupUploadAccount submitter) s, [])

/-- The loop of `cleanup_incomplete_misbehaviour`: the account at each index is closed if it is the
submitter's misbehaviour chunk of that index. -/
def cleanupMisbehaviourAccounts (submitter : Bytes) : ℕ → List AccountRef → State → State
  | _, [], s => s
  | index, account :: rest, s =>
    cleanupMisbehaviourAccounts submitter (index + 1) rest
      (if account = .misbehaviourChunk submitter (UInt8.ofNat index) then
        s.setMisbehaviourChunk (submitter, UInt8.ofNat index) none
      else s)

/-- `cleanup_incomplete_misbehaviour`. -/
def cleanupIncompleteMisbehaviour (s : State) (submitter : Bytes) (remaining : List AccountRef) :
    Except Fail (State × List UpdateResult) :=
  pure (cleanupMisbehaviourAccounts submitter 0 remaining s, [])

/-- `cleanup_chunks` of `assemble_and_submit_misbehaviour`: each chunk read is checked again and
closed. -/
def cleanupChunks (submitter : Bytes) : ℕ → List AccountRef → State → Except Fail State
  | _, [], s => pure s
  | index, account :: rest, s => do
    require (account = .misbehaviourChunk submitter (UInt8.ofNat index)) (.tendermint .InvalidChunkAccount)
    require (s.misbehaviourChunks (submitter, UInt8.ofNat index)).isSome (.tendermint .InvalidAccountOwner)
    cleanupChunks submitter (index + 1) rest (s.setMisbehaviourChunk (submitter, UInt8.ofNat index) none)

/-- `process_misbehaviour`: the evidence decoded and checked against the two trusted consensus
states, whose heights must be the ones the check read. -/
def processMisbehaviour (L : LightClient) (clientState : ClientState) (trusted1 trusted2 : ConsensusStateStore)
    (misbehaviourBytes : Bytes) (unixTimestamp : Int) : Except Fail Unit := do
  let misbehaviour ← expect (L.deserializeMisbehaviour misbehaviourBytes) (.tendermint .InvalidMisbehaviour)
  checkLatestHeight clientState
  let currentTime ← secsToNanos unixTimestamp
  let output ← expect (L.checkForMisbehaviour clientState misbehaviour trusted1.consensusState trusted2.consensusState
    currentTime) (.tendermint .MisbehaviourCheckFailed)
  require (trusted1.height = output.1.revisionHeight) (.tendermint .HeightMismatch)
  require (trusted2.height = output.2.revisionHeight) (.tendermint .HeightMismatch)

/-- `assemble_and_submit_misbehaviour`: on success the client is frozen and the chunks closed. -/
def assembleAndSubmitMisbehaviour (L : LightClient) (s : State) (submitter : Bytes) (hasRole : Bool)
    (chunkCount : UInt8) (trustedHeight1 trustedHeight2 : UInt64) (remaining : List AccountRef) (unixTimestamp : Int) :
    Except Fail (State × List UpdateResult) := do
  let clientState ← loadClientState s
  let _ ← loadAppState s
  let trusted1 ← loadConsensusStateStore s trustedHeight1
  let trusted2 ← loadConsensusStateStore s trustedHeight2
  require hasRole .unauthorized
  require (clientState.isFrozen = false) (.tendermint .ClientAlreadyFrozen)
  require (chunkCount.toNat ≤ remaining.length) .panic
  let chunks := remaining.take chunkCount.toNat
  let misbehaviourBytes ← readChunks (fun index => .misbehaviourChunk submitter (UInt8.ofNat index))
    (fun index => s.misbehaviourChunks (submitter, UInt8.ofNat index)) 0 chunks
  processMisbehaviour L clientState trusted1 trusted2 misbehaviourBytes unixTimestamp
  let s' ← cleanupChunks submitter 0 chunks (s.setClientState clientState.freeze)
  pure (s', [])

/-- `pre_verify_signature`: `ed25519Valid` is what the Ed25519 precompile instruction of the
transaction shows. -/
def preVerifySignature (H : Hashes) (s : State) (submitter : Bytes) (hasRole : Bool) (signature : SignatureData)
    (ed25519Valid : Bool) : Except Fail (State × List UpdateResult) := do
  require (s.signatureVerifications signature.signatureHash = none) .accountAlreadyInUse
  let _ ← loadAppState s
  require hasRole .unauthorized
  require (signature.signatureHash = H.sha256 (signature.pubkey ++ signature.msg ++ signature.signature))
    (.tendermint .InvalidAccountData)
  pure (s.setSignatureVerification signature.signatureHash (some ⟨ed25519Valid, submitter⟩), [])

/-- The instructions that write the program's accounts. -/
inductive Instruction
  | initializeClient (isUpgradeAuthority : Bool) (clientState : ClientState) (consensusState : ConsensusState)
      (accessManager : Bytes)
  | uploadHeaderChunk (submitter : Bytes) (hasRole : Bool) (params : UploadChunkParams)
  | assembleAndUpdateClient (submitter : Bytes) (hasRole : Bool) (targetHeight : UInt64) (chunkCount : UInt8)
      (trustedHeight : UInt64) (remaining : List AccountRef) (unixTimestamp : Int)
  | cleanupIncompleteUpload (submitter : Bytes) (remaining : List AccountRef)
  | uploadMisbehaviourChunk (submitter : Bytes) (hasRole : Bool) (params : UploadMisbehaviourChunkParams)
  | assembleAndSubmitMisbehaviour (submitter : Bytes) (hasRole : Bool) (chunkCount : UInt8)
      (trustedHeight1 trustedHeight2 : UInt64) (remaining : List AccountRef) (unixTimestamp : Int)
  | cleanupIncompleteMisbehaviour (submitter : Bytes) (remaining : List AccountRef)
  | preVerifySignature (submitter : Bytes) (hasRole : Bool) (signature : SignatureData) (ed25519Valid : Bool)

/-- One instruction, atomic: on failure the accounts stay as they were. The log holds the
results `assemble_and_update_client` returns. -/
def step (L : LightClient) (H : Hashes) (s : State) : Instruction → Except Fail (State × List UpdateResult)
  | .initializeClient isUpgradeAuthority clientState consensusState accessManager =>
    initializeClient s isUpgradeAuthority clientState consensusState accessManager
  | .uploadHeaderChunk submitter hasRole params => uploadHeaderChunk s submitter hasRole params
  | .assembleAndUpdateClient submitter hasRole targetHeight chunkCount trustedHeight remaining unixTimestamp =>
    assembleAndUpdateClient L s submitter hasRole targetHeight chunkCount trustedHeight remaining unixTimestamp
  | .cleanupIncompleteUpload submitter remaining => cleanupIncompleteUpload s submitter remaining
  | .uploadMisbehaviourChunk submitter hasRole params => uploadMisbehaviourChunk s submitter hasRole params
  | .assembleAndSubmitMisbehaviour submitter hasRole chunkCount trustedHeight1 trustedHeight2 remaining unixTimestamp =>
    assembleAndSubmitMisbehaviour L s submitter hasRole chunkCount trustedHeight1 trustedHeight2 remaining
      unixTimestamp
  | .cleanupIncompleteMisbehaviour submitter remaining => cleanupIncompleteMisbehaviour s submitter remaining
  | .preVerifySignature submitter hasRole signature ed25519Valid =>
    preVerifySignature H s submitter hasRole signature ed25519Valid

end Ics07Tendermint
