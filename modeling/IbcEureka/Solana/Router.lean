/-
# The Solana router's instructions

The instructions of `ics26-router` that move packets (`send_packet`,
`recv_packet`, `ack_packet`, `timeout_packet`), upload and clean up chunks,
and add or migrate clients. Each is the Anchor account constraints of its
context, in the order they are declared, then its handler; a failure anywhere
fails the whole instruction (`Ics26Router.step` returns `Except`). What the
access manager, the light client and the application answer the router's
cross-program invocations is an input of the instruction. An application
cannot call back into the router: Solana allows no reentrancy but a program's
call of itself.

`ack_packet` and `timeout_packet` differ only in what they prove to the light
client and which callback they make; they are one function, `resolvePacket`,
applied to each one's proof check. The two chunk uploads are one function,
`uploadChunk`, in the same way.

Key definitions: `Ics26Router.Instruction`, `Ics26Router.step`, `Ics26Router.Event`.
-/
import IbcEureka.Solana.Chunking

namespace Ics26Router

open Txn

/-- `MAX_TIMEOUT_DURATION`, one day in seconds. -/
def maxTimeoutDuration : ℕ := 86400

/-- `MIN_CLIENT_ID_LENGTH`. -/
def minClientIdLength : ℕ := 4

/-- `MAX_CLIENT_ID_LENGTH`. -/
def maxClientIdLength : ℕ := 32

/-- `ClientStatus`, as a light client reports it. -/
inductive ClientStatus
  | Active
  | Frozen
  | Expired
  deriving DecidableEq, Repr

/-- `MsgProof`. -/
structure MsgProof where
  height : UInt64
  data : Delivery
  deriving DecidableEq, Repr

/-- `MsgSendPacket`. -/
structure MsgSendPacket where
  sourceClient : Bytes
  sequence : UInt64
  timeoutTimestamp : UInt64
  payload : Payload
  deriving DecidableEq, Repr

/-- `MsgRecvPacket`. -/
structure MsgRecvPacket where
  packet : MsgPacket
  proof : MsgProof
  deriving DecidableEq, Repr

/-- `MsgAckPacket`. -/
structure MsgAckPacket where
  packet : MsgPacket
  acknowledgement : Bytes
  proof : MsgProof
  deriving DecidableEq, Repr

/-- `MsgTimeoutPacket`. -/
structure MsgTimeoutPacket where
  packet : MsgPacket
  proof : MsgProof
  deriving DecidableEq, Repr

/-- `MsgUploadChunk`. -/
structure MsgUploadChunk where
  clientId : Bytes
  sequence : UInt64
  payloadIndex : UInt8
  chunkIndex : UInt8
  chunkData : Bytes
  deriving DecidableEq, Repr

/-- `MsgCleanupChunks`. -/
structure MsgCleanupChunks where
  clientId : Bytes
  sequence : UInt64
  payloadChunks : List UInt8
  totalProofChunks : UInt8
  deriving DecidableEq, Repr

/-- `MigrateClientParams`. -/
structure MigrateClientParams where
  clientProgramId : Option Pubkey
  counterpartyInfo : Option CounterpartyInfo
  active : Option Bool
  deriving DecidableEq, Repr

/-- `MembershipMsg`, what the router asks a light client to verify. -/
structure MembershipMsg where
  height : UInt64
  proof : Bytes
  path : List Bytes
  value : Bytes
  deriving DecidableEq, Repr

/-- `NonMembershipMsg`. -/
structure NonMembershipMsg where
  height : UInt64
  proof : Bytes
  path : List Bytes
  deriving DecidableEq, Repr

/-- The router's events, and its calls into applications with what they carry. -/
inductive Event
  | SendPacketEvent (clientId : Bytes) (sequence : UInt64) (packet : Packet) (timeoutTimestamp : UInt64)
  | WriteAcknowledgementEvent (clientId : Bytes) (sequence : UInt64) (packet : Packet) (acknowledgements : List Bytes)
  | AckPacketEvent (clientId : Bytes) (sequence : UInt64) (packet : Packet) (acknowledgement : List Bytes)
  | TimeoutPacketEvent (clientId : Bytes) (sequence : UInt64) (packet : Packet)
  | NoopEvent
  | ClientAddedEvent (client : Client)
  | ClientUpdatedEvent (client : Client)
  | onRecvPacket (appProgram : Pubkey) (packet : Packet) (payload : Payload)
  | onAcknowledgementPacket (appProgram : Pubkey) (packet : Packet) (payload : Payload) (acknowledgement : Bytes)
  | onTimeoutPacket (appProgram : Pubkey) (packet : Packet) (payload : Payload)
  deriving DecidableEq, Repr

/-- `get_single_payload`. -/
def getSinglePayload (packet : Packet) : Except Fail Payload :=
  match packet.payloads with
  | [payload] => .ok payload
  | _ => .error (.router .InvalidPayloadCount)

/-- `Clock::get()` as a `u64`: a negative clock does not convert. -/
def currentTimestamp (unixTimestamp : Int) : Except Fail ℕ := do
  require (0 ≤ unixTimestamp) (.router .ArithmeticOverflow)
  pure unixTimestamp.toNat

/-- The `router_state` constraint of the packet instructions: the router must not be paused. -/
def requireNotPaused (accts : Accounts) : Except Fail Unit := do
  let paused ← loadAccount accts [routerStateSeed] Account.asRouterState
  require (paused = false) (.router .RouterPaused)

variable (H : Hashes)

/-- `send_packet`: `appCaller` is the program whose `app_state` address signed. -/
def sendPacket (accts : Accounts) (unixTimestamp : Int) (appCaller : Pubkey) (msg : MsgSendPacket)
    (status : Option ClientStatus) : Except Fail (Accounts × List Event) := do
  requireNotPaused accts
  let app ← loadAccount accts [ibcAppSeed, msg.payload.sourcePort] Account.asIbcApp
  require (app.portId = msg.payload.sourcePort) (.router .PortIdentifierMismatch)
  let commitmentKey ← address (commitmentSeeds packetCommitmentSeed msg.sourceClient msg.sequence)
  initCommitment accts commitmentKey
  require (appCaller = app.appProgramId) .constraintSeeds
  let client ← loadAccount accts [clientSeed, msg.sourceClient] Account.asClient
  require client.active (.router .ClientNotActive)
  let status ← expect status .cpiFailed
  require (status = .Active) (.router .ClientNotActive)
  let now ← currentTimestamp unixTimestamp
  require (now < msg.timeoutTimestamp.toNat) (.router .InvalidTimeoutTimestamp)
  require (msg.timeoutTimestamp.toNat - now ≤ maxTimeoutDuration) (.router .InvalidTimeoutDuration)
  require (0 < msg.sequence) (.router .ZeroPacketSequence)
  let packet : Packet := ⟨msg.sequence, msg.sourceClient, client.counterpartyInfo.clientId, msg.timeoutTimestamp,
    [msg.payload]⟩
  pure (accts.set commitmentKey (.commitment (Ics24.packetCommitmentBytes32 H packet)),
    [.SendPacketEvent msg.sourceClient msg.sequence packet msg.timeoutTimestamp])

/-- The accounts as Anchor writes them back after `recv_packet`: the receipt and the
acknowledgement commitment, created by `init_if_needed` if they were not there. -/
def writeBack (accts : Accounts) (receiptKey receipt ackKey ack : Bytes) : Accounts :=
  (accts.set receiptKey (.commitment receipt)).set ackKey (.commitment ack)

/-- The end of `recv_packet`, once the proof is verified: a packet received already is a
no-op; otherwise the receipt is written and the application's acknowledgement committed. -/
def recvWrite (accts : Accounts) (receiptKey receipt ackKey ack : Bytes) (appProgram : Pubkey) (packet : Packet)
    (payload : Payload) (onRecv : Option Bytes) : Except Fail (Accounts × List Event) := do
  let receiptCommitment ← (Ics24.packetReceiptCommitmentBytes32 H packet).mapError .ics24
  if receipt ≠ empty then
    if receipt = receiptCommitment then pure (writeBack accts receiptKey receipt ackKey ack, [.NoopEvent])
    else .error (.router .PacketReceiptMismatch)
  else do
    let acknowledgement ← expect onRecv .cpiFailed
    require (acknowledgement ≠ []) (.router .AsyncAcknowledgementNotSupported)
    require (acknowledgement ≠ Ics24.universalErrorAck) (.router .UniversalErrorAcknowledgement)
    let ackCommitment ← (Ics24.packetAcknowledgementCommitmentBytes32 H [acknowledgement]).mapError .ics24
    pure (writeBack accts receiptKey receiptCommitment ackKey ackCommitment,
      [.onRecvPacket appProgram packet payload,
        .WriteAcknowledgementEvent packet.destClient packet.sequence packet [acknowledgement]])

/-- `recv_packet`: `relayer` signs, `hasRole` is whether it holds the relayer role,
`appProgram` is the program passed as the app's, `verify` the light client's answer and
`onRecv` the application's acknowledgement (`none` when its call fails). -/
def recvPacket (accts : Accounts) (unixTimestamp : Int) (relayer : Pubkey) (hasRole : Bool) (msg : MsgRecvPacket)
    (remaining : List Bytes) (appProgram : Pubkey) (verify : MembershipMsg → Bool) (onRecv : Option Bytes) :
    Except Fail (Accounts × List Event) := do
  requireNotPaused accts
  -- the seeds of `ibc_app` index the first payload
  let firstPayload ← expect msg.packet.payloads.head? .panic
  let app ← loadAccount accts [ibcAppSeed, firstPayload.destPort] Account.asIbcApp
  let receiptKey ← address (commitmentSeeds packetReceiptSeed msg.packet.destClient msg.packet.sequence)
  let receipt ← initIfNeededCommitment accts receiptKey
  let ackKey ← address (commitmentSeeds packetAckSeed msg.packet.destClient msg.packet.sequence)
  let ack ← initIfNeededCommitment accts ackKey
  require (appProgram = app.appProgramId) (.router .IbcAppNotFound)
  let client ← loadAccount accts [clientSeed, msg.packet.destClient] Account.asClient
  require client.active (.router .ClientNotActive)
  require hasRole .unauthorized
  require (msg.packet.sourceClient = client.counterpartyInfo.clientId) (.router .InvalidCounterpartyClient)
  require (msg.packet.destClient = client.clientId) (.router .ClientMismatch)
  let now ← currentTimestamp unixTimestamp
  require (now < msg.packet.timeoutTimestamp.toNat) (.router .InvalidTimeoutTimestamp)
  let reconstructed ← validateAndReconstructPacket accts msg.packet remaining relayer msg.packet.destClient
  let packet := reconstructed.2
  let payload ← getSinglePayload packet
  let total ← totalPayloadChunks msg.packet.payloads
  let proof ← assembleProofChunks reconstructed.1 remaining relayer msg.packet.destClient msg.packet.sequence
    msg.proof.data total
  let path ← (Ics24.prefixedPath client.counterpartyInfo.merklePrefix
    (Ics24.packetCommitmentPath packet.sourceClient packet.sequence)).mapError .ics24
  require (verify ⟨msg.proof.height, proof.2, path, Ics24.packetCommitmentBytes32 H packet⟩) .cpiFailed
  recvWrite H proof.1 receiptKey receipt ackKey ack app.appProgramId packet payload onRecv

/-- What `ack_packet` and `timeout_packet` share: the accounts of their context, the packet
reassembled and its commitment checked and cleared, then the application's callback.
`proveToClient` is what each proves to the light client about the packet, `callbackOk` whether
the callback succeeds and `events` what each logs. -/
def resolvePacket (accts : Accounts) (relayer : Pubkey) (hasRole : Bool) (msgPacket : MsgPacket)
    (proofDelivery : Delivery) (remaining : List Bytes) (appProgram : Pubkey)
    (proveToClient : Client → Packet → Bytes → Except Fail Unit) (callbackOk : Bool)
    (events : Pubkey → Packet → Payload → List Event) : Except Fail (Accounts × List Event) := do
  requireNotPaused accts
  let firstPayload ← expect msgPacket.payloads.head? .panic
  let app ← loadAccount accts [ibcAppSeed, firstPayload.sourcePort] Account.asIbcApp
  let commitmentKey ← address (commitmentSeeds packetCommitmentSeed msgPacket.sourceClient msgPacket.sequence)
  let commitment ← loadCommitment accts commitmentKey
  require (appProgram = app.appProgramId) (.router .IbcAppNotFound)
  let client ← loadAccount accts [clientSeed, msgPacket.sourceClient] Account.asClient
  require client.active (.router .ClientNotActive)
  require hasRole .unauthorized
  require (msgPacket.sourceClient = client.clientId) (.router .ClientMismatch)
  require (msgPacket.destClient = client.counterpartyInfo.clientId) (.router .InvalidCounterpartyClient)
  let reconstructed ← validateAndReconstructPacket accts msgPacket remaining relayer msgPacket.sourceClient
  let packet := reconstructed.2
  let payload ← getSinglePayload packet
  let total ← totalPayloadChunks msgPacket.payloads
  let proof ← assembleProofChunks reconstructed.1 remaining relayer msgPacket.sourceClient msgPacket.sequence
    proofDelivery total
  proveToClient client packet proof.2
  require (commitment = Ics24.packetCommitmentBytes32 H packet) (.router .PacketCommitmentMismatch)
  require callbackOk .cpiFailed
  pure (proof.1.set commitmentKey (.commitment empty), events app.appProgramId packet payload)

/-- `ack_packet`'s proof: the acknowledgement commitment is in the counterparty's store. -/
def proveAcknowledgement (msg : MsgAckPacket) (verify : MembershipMsg → Bool) (client : Client) (packet : Packet)
    (proof : Bytes) : Except Fail Unit := do
  let ackCommitment ← (Ics24.packetAcknowledgementCommitmentBytes32 H [msg.acknowledgement]).mapError .ics24
  let path ← (Ics24.prefixedPath client.counterpartyInfo.merklePrefix
    (Ics24.packetAcknowledgementCommitmentPath packet.destClient packet.sequence)).mapError .ics24
  require (verify ⟨msg.proof.height, proof, path, ackCommitment⟩) .cpiFailed

/-- `timeout_packet`'s proof: no receipt in the counterparty's store, at a time past the
packet's timeout. -/
def proveTimeout (msg : MsgTimeoutPacket) (verify : NonMembershipMsg → Option UInt64) (client : Client)
    (packet : Packet) (proof : Bytes) : Except Fail Unit := do
  let path ← (Ics24.prefixedPath client.counterpartyInfo.merklePrefix
    (Ics24.packetReceiptCommitmentPath packet.destClient packet.sequence)).mapError .ics24
  let counterpartyTimestamp ← expect (verify ⟨msg.proof.height, proof, path⟩) .cpiFailed
  require (packet.timeoutTimestamp ≤ counterpartyTimestamp) (.router .InvalidTimeoutTimestamp)

/-- `ack_packet`. -/
def ackPacket (accts : Accounts) (relayer : Pubkey) (hasRole : Bool) (msg : MsgAckPacket) (remaining : List Bytes)
    (appProgram : Pubkey) (verify : MembershipMsg → Bool) (onAck : Bool) : Except Fail (Accounts × List Event) :=
  resolvePacket H accts relayer hasRole msg.packet msg.proof.data remaining appProgram
    (proveAcknowledgement H msg verify) onAck fun appProgramId packet payload =>
      [.onAcknowledgementPacket appProgramId packet payload msg.acknowledgement,
        .AckPacketEvent packet.sourceClient packet.sequence packet [msg.acknowledgement]]

/-- `timeout_packet`. -/
def timeoutPacket (accts : Accounts) (relayer : Pubkey) (hasRole : Bool) (msg : MsgTimeoutPacket)
    (remaining : List Bytes) (appProgram : Pubkey) (verify : NonMembershipMsg → Option UInt64) (onTimeout : Bool) :
    Except Fail (Accounts × List Event) :=
  resolvePacket H accts relayer hasRole msg.packet msg.proof.data remaining appProgram
    (proveTimeout msg verify) onTimeout fun appProgramId packet payload =>
      [.onTimeoutPacket appProgramId packet payload, .TimeoutPacketEvent packet.sourceClient packet.sequence packet]

/-- What the two chunk uploads share: the chunk account at `seeds` is created, or must already
be a chunk of the kind `isKind`, and its data become `chunk`. -/
def uploadChunk (accts : Accounts) (hasRole : Bool) (seeds : List Bytes) (isKind : Account → Bool)
    (chunkData : Bytes) (chunk : Account) : Except Fail (Accounts × List Event) := do
  let _ ← loadAccount accts [routerStateSeed] Account.asRouterState
  let key ← address seeds
  require ((accts key).all isKind) .accountDiscriminatorMismatch
  require hasRole .unauthorized
  require (chunkData.length ≤ chunkDataSize) (.router .ChunkDataTooLarge)
  pure (accts.set key chunk, [])

def Account.isPayloadChunk : Account → Bool
  | .payloadChunk .. => true
  | _ => false

def Account.isProofChunk : Account → Bool
  | .proofChunk .. => true
  | _ => false

/-- `upload_payload_chunk`. -/
def uploadPayloadChunk (accts : Accounts) (relayer : Pubkey) (hasRole : Bool) (msg : MsgUploadChunk) :
    Except Fail (Accounts × List Event) :=
  uploadChunk accts hasRole (payloadChunkSeeds relayer msg.clientId msg.sequence msg.payloadIndex msg.chunkIndex)
    Account.isPayloadChunk msg.chunkData
    (.payloadChunk msg.clientId msg.sequence msg.payloadIndex msg.chunkIndex msg.chunkData)

/-- `upload_proof_chunk`. -/
def uploadProofChunk (accts : Accounts) (relayer : Pubkey) (hasRole : Bool) (msg : MsgUploadChunk) :
    Except Fail (Accounts × List Event) :=
  uploadChunk accts hasRole (proofChunkSeeds relayer msg.clientId msg.sequence msg.chunkIndex) Account.isProofChunk
    msg.chunkData (.proofChunk msg.clientId msg.sequence msg.chunkIndex msg.chunkData)

/-- The chunk accounts `cleanup_chunks` closes, in the order it walks the remaining accounts:
each payload's chunks, then the proof's. -/
def cleanupSeeds (relayer : Pubkey) (msg : MsgCleanupChunks) : List (List Bytes) :=
  (msg.payloadChunks.zipIdx.flatMap fun e =>
      payloadChunkSeedsList relayer msg.clientId msg.sequence (UInt8.ofNat e.2) e.1) ++
    proofChunkSeedsList relayer msg.clientId msg.sequence msg.totalProofChunks

/-- `cleanup_chunks`: the relayer's chunks of a packet are zero-filled and closed. -/
def cleanupChunks (accts : Accounts) (relayer : Pubkey) (hasRole : Bool) (msg : MsgCleanupChunks)
    (remaining : List Bytes) : Except Fail (Accounts × List Event) := do
  let _ ← loadAccount accts [routerStateSeed] Account.asRouterState
  require hasRole .unauthorized
  let accts' ← forEachChunk none accts remaining (cleanupSeeds relayer msg)
  pure (accts', [])

/-- `CLIENT_ID_PREFIX`, `"client-"`. -/
def clientIdPrefix : Bytes := [0x63, 0x6c, 0x69, 0x65, 0x6e, 0x74, 0x2d]

/-- `CHANNEL_ID_PREFIX`, `"channel-"`. -/
def channelIdPrefix : Bytes := [0x63, 0x68, 0x61, 0x6e, 0x6e, 0x65, 0x6c, 0x2d]

/-- The bytes a custom identifier may hold: `a-z`, `0-9`, `A-Z`, `._+-#[]<>`. -/
def isIdentifierByte (c : UInt8) : Bool :=
  (0x61 ≤ c && c ≤ 0x7A) || (0x30 ≤ c && c ≤ 0x39) || (0x41 ≤ c && c ≤ 0x5A) ||
    (c == 0x2E || c == 0x5F || c == 0x2B || c == 0x2D) ||
    (c == 0x23 || c == 0x5B || c == 0x5D || c == 0x3C || c == 0x3E)

/-- `validate_custom_ibc_identifier`. -/
def validateCustomIbcIdentifier (id : Bytes) (minLen maxLen : ℕ) : Bool :=
  if id.length < minLen || id.length > maxLen then false
  else if clientIdPrefix.isPrefixOf id || channelIdPrefix.isPrefixOf id then false
  else id.all isIdentifierByte

/-- `add_client`: `hasRole` is whether the authority holds the id customizer role. -/
def addClient (accts : Accounts) (hasRole : Bool) (clientId : Bytes) (counterpartyInfo : CounterpartyInfo)
    (lightClientProgram : Pubkey) : Except Fail (Accounts × List Event) := do
  let _ ← loadAccount accts [routerStateSeed] Account.asRouterState
  let key ← address [clientSeed, clientId]
  require (accts key = none) .accountAlreadyInUse
  require hasRole .unauthorized
  require (validateCustomIbcIdentifier clientId minClientIdLength maxClientIdLength) (.router .InvalidClientId)
  require (counterpartyInfo.merklePrefix ≠ []) (.router .InvalidCounterpartyInfo)
  let client : Client := ⟨clientId, lightClientProgram, counterpartyInfo, true⟩
  pure (accts.set key (.client client), [.ClientAddedEvent client])

/-- `migrate_client`: `isAdmin` is whether the authority is the access manager's admin. -/
def migrateClient (accts : Accounts) (isAdmin : Bool) (clientId : Bytes) (params : MigrateClientParams) :
    Except Fail (Accounts × List Event) := do
  let _ ← loadAccount accts [routerStateSeed] Account.asRouterState
  let key ← address [clientSeed, clientId]
  let client ← loadAccount accts [clientSeed, clientId] Account.asClient
  require (client.clientId = clientId) (.router .ClientMismatch)
  require isAdmin .unauthorized
  require (params.clientProgramId.isSome || params.counterpartyInfo.isSome || params.active.isSome)
    (.router .InvalidMigrationParams)
  require (params.counterpartyInfo.all fun info => !info.merklePrefix.isEmpty) (.router .InvalidCounterpartyInfo)
  let client' : Client := ⟨client.clientId, params.clientProgramId.getD client.clientProgramId,
    params.counterpartyInfo.getD client.counterpartyInfo, params.active.getD client.active⟩
  pure (accts.set key (.client client'), [.ClientUpdatedEvent client'])

/-- An instruction, with what the programs it calls answer. -/
inductive Instruction
  | sendPacket (unixTimestamp : Int) (appCaller : Pubkey) (msg : MsgSendPacket) (status : Option ClientStatus)
  | recvPacket (unixTimestamp : Int) (relayer : Pubkey) (hasRole : Bool) (msg : MsgRecvPacket)
      (remaining : List Bytes) (appProgram : Pubkey) (verify : MembershipMsg → Bool) (onRecv : Option Bytes)
  | ackPacket (relayer : Pubkey) (hasRole : Bool) (msg : MsgAckPacket) (remaining : List Bytes)
      (appProgram : Pubkey) (verify : MembershipMsg → Bool) (onAck : Bool)
  | timeoutPacket (relayer : Pubkey) (hasRole : Bool) (msg : MsgTimeoutPacket) (remaining : List Bytes)
      (appProgram : Pubkey) (verify : NonMembershipMsg → Option UInt64) (onTimeout : Bool)
  | uploadPayloadChunk (relayer : Pubkey) (hasRole : Bool) (msg : MsgUploadChunk)
  | uploadProofChunk (relayer : Pubkey) (hasRole : Bool) (msg : MsgUploadChunk)
  | cleanupChunks (relayer : Pubkey) (hasRole : Bool) (msg : MsgCleanupChunks) (remaining : List Bytes)
  | addClient (hasRole : Bool) (clientId : Bytes) (counterpartyInfo : CounterpartyInfo) (lightClientProgram : Pubkey)
  | migrateClient (isAdmin : Bool) (clientId : Bytes) (params : MigrateClientParams)

/-- One instruction of the router, atomic: on failure the accounts stay as they were. -/
def step (accts : Accounts) : Instruction → Except Fail (Accounts × List Event)
  | .sendPacket unixTimestamp appCaller msg status => sendPacket H accts unixTimestamp appCaller msg status
  | .recvPacket unixTimestamp relayer hasRole msg remaining appProgram verify onRecv =>
    recvPacket H accts unixTimestamp relayer hasRole msg remaining appProgram verify onRecv
  | .ackPacket relayer hasRole msg remaining appProgram verify onAck =>
    ackPacket H accts relayer hasRole msg remaining appProgram verify onAck
  | .timeoutPacket relayer hasRole msg remaining appProgram verify onTimeout =>
    timeoutPacket H accts relayer hasRole msg remaining appProgram verify onTimeout
  | .uploadPayloadChunk relayer hasRole msg => uploadPayloadChunk accts relayer hasRole msg
  | .uploadProofChunk relayer hasRole msg => uploadProofChunk accts relayer hasRole msg
  | .cleanupChunks relayer hasRole msg remaining => cleanupChunks accts relayer hasRole msg remaining
  | .addClient hasRole clientId counterpartyInfo lightClientProgram =>
    addClient accts hasRole clientId counterpartyInfo lightClientProgram
  | .migrateClient isAdmin clientId params => migrateClient accts isAdmin clientId params

end Ics26Router
