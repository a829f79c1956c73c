/-
# The Solidity ICS26 router

`ICS26Router` holds the IBC store, the client registry and the port → app
table. Every entry point runs as one transaction (`ICS26Router.step`): it
succeeds with a new state and its events, or reverts and changes nothing.
What the other contracts answer is an input of the call: the light client's
verdict on the message the router builds (a function of that message), and
the application's callback outcome. During a callback the application may call
back into the router; every packet entry point and `addIBCApp` is
`nonReentrant`, so the only calls that can succeed there are the registry's
(`nested`), which run in order, each all or nothing.

The log records, besides the contract's events, each application callback
the router makes, with the packet it makes it for.

Key definitions: `ICS26Router.State`, `ICS26Router.Call`,
`ICS26Router.sendPacket`, `ICS26Router.recvPacket`, `ICS26Router.ackPacket`,
`ICS26Router.timeoutPacket`, `ICS26Router.step`.
-/
import IbcEureka.Solidity.ICS02Client
import IbcEureka.Lib.Txn

namespace ICS26Router

open ICS02Client Txn

/-- `MAX_TIMEOUT_DURATION`, one day in seconds. -/
def maxTimeoutDuration : ℕ := 86400

/-- `UNIVERSAL_ERROR_ACK`. -/
def universalErrorAck : Bytes :=
  [0x47, 0x74, 0xd4, 0xa5, 0x75, 0x99, 0x3f, 0x96, 0x3b, 0x1c, 0x06, 0x57, 0x37, 0x36, 0x61, 0x7a,
   0x45, 0x7a, 0xbe, 0xf8, 0x58, 0x91, 0x78, 0xdb, 0x8d, 0x10, 0xc9, 0x4b, 0x4a, 0xb5, 0x11, 0xab]

/-- `IICS02ClientMsgs.Height`. -/
structure Height where
  revisionNumber : UInt64
  revisionHeight : UInt64
  deriving DecidableEq, Repr

/-- `ILightClientMsgs.MsgVerifyMembership`. -/
structure MsgVerifyMembership where
  proof : Bytes
  proofHeight : Height
  path : List Bytes
  value : Bytes

/-- `ILightClientMsgs.MsgVerifyNonMembership`. -/
structure MsgVerifyNonMembership where
  proof : Bytes
  proofHeight : Height
  path : List Bytes

/-- `IICS26RouterMsgs.MsgSendPacket`. -/
structure MsgSendPacket where
  sourceClient : Bytes
  timeoutTimestamp : UInt64
  payload : Payload

/-- `IICS26RouterMsgs.MsgRecvPacket`. -/
structure MsgRecvPacket where
  packet : Packet
  proofCommitment : Bytes
  proofHeight : Height

/-- `IICS26RouterMsgs.MsgAckPacket`. -/
structure MsgAckPacket where
  packet : Packet
  acknowledgement : Bytes
  proofAcked : Bytes
  proofHeight : Height

/-- `IICS26RouterMsgs.MsgTimeoutPacket`. -/
structure MsgTimeoutPacket where
  packet : Packet
  proofTimeout : Bytes
  proofHeight : Height

/-- The router's storage: the IBC store, the client registry and `_apps`. -/
structure State where
  store : IBCStore.IBCStoreStorage
  clients : ICS02ClientStorage
  apps : Bytes → Address

/-- The state of a freshly initialized router. -/
def State.init : State := ⟨.init, .init, fun _ => 0⟩

/-- The router's events, and the application callbacks it makes. -/
inductive Event
  | IBCAppAdded (portId : Bytes) (app : Address)
  | SendPacket (packet : Packet)
  | WriteAcknowledgement (packet : Packet) (acks : List Bytes)
  | IBCAppRecvPacketCallbackError (reason : Bytes)
  | AckPacket (packet : Packet) (acknowledgement : Bytes)
  | TimeoutPacket (packet : Packet)
  | Noop
  | ics02 (e : ICS02Event)
  /-- The router calls `onRecvPacket` of `app` for `packet`. -/
  | onRecvPacket (app : Address) (packet : Packet)
  /-- The router calls `onAcknowledgementPacket` of `app` for `packet`. -/
  | onAcknowledgementPacket (app : Address) (packet : Packet) (acknowledgement : Bytes)
  /-- The router calls `onTimeoutPacket` of `app` for `packet`. -/
  | onTimeoutPacket (app : Address) (packet : Packet)
  deriving DecidableEq, Repr

/-- What the caller and the chain give a call: `msg.sender`, the access manager's verdict
for a `restricted` entry point, and `block.timestamp`. -/
structure Env where
  sender : Address
  authorized : Bool
  timestamp : ℕ

/-- The entry points, each with what the contracts it calls answer. -/
inductive Call
  | addIBCApp (app : Address)
  | addIBCAppWithPort (portId : Bytes) (app : Address)
  | sendPacket (msg : MsgSendPacket)
  /-- The light client's verdict, the outcome of `onRecvPacket` (its revert reason or its
  acknowledgement) and the registry calls the application makes meanwhile. -/
  | recvPacket (msg : MsgRecvPacket) (verify : MsgVerifyMembership → Bool) (callback : Except Bytes Bytes)
      (nested : List ClientCall)
  | ackPacket (msg : MsgAckPacket) (verify : MsgVerifyMembership → Bool) (callbackOk : Bool)
      (nested : List ClientCall)
  /-- The light client returns the counterparty timestamp, or reverts. -/
  | timeoutPacket (msg : MsgTimeoutPacket) (verify : MsgVerifyNonMembership → Option ℕ) (callbackOk : Bool)
      (nested : List ClientCall)
  | client (c : ClientCall)

/-- `getIBCApp`. -/
def getIBCApp (s : State) (portId : Bytes) : Except Revert Address :=
  let app := s.apps portId
  if app ≠ 0 then .ok app else .error (.IBCAppNotFound portId)

/-- The payload of a packet, which must have exactly one. -/
def singlePayload (packet : Packet) : Except Revert Payload :=
  match packet.payloads with
  | [payload] => .ok payload
  | _ => .error .IBCMultiPayloadPacketNotSupported

/-- `_addIBCApp`: the port must be free. -/
def addIBCAppAt (s : State) (portId : Bytes) (app : Address) : Except Revert (State × List Event) := do
  require (s.apps portId = 0) (.IBCPortAlreadyExists portId)
  pure ({ s with apps := Function.update s.apps portId app }, [.IBCAppAdded portId app])

variable (S : OzStrings) (H : Hashes)

/-- A registry call, on the router's state. -/
def clientStep (s : State) (c : ClientCall) : Except Revert (State × List Event) :=
  (clientCall S H s.clients c).map fun r => ({ s with clients := r.1 }, r.2.map .ics02)

/-- The registry calls an application makes during its callback. -/
def nestedCalls (s : State) (nested : List ClientCall) : State × List Event :=
  exec (clientStep S H) (s, []) nested

/-- The registry calls of an `onRecvPacket` callback: none if the callback reverted. -/
def recvCallbackCalls (s : State) (callback : Except Bytes Bytes) (nested : List ClientCall) :
    State × List Event :=
  match callback with
  | .ok _ => nestedCalls S H s nested
  | .error _ => (s, [])

/-- `addIBCApp(string portId, address app)`, `restricted`. -/
def addIBCAppWithPort (s : State) (env : Env) (portId : Bytes) (app : Address) :
    Except Revert (State × List Event) := do
  require env.authorized .AccessManagedUnauthorized
  require (portId.length ≠ 0) (.IBCInvalidPortIdentifier portId)
  require (!S.tryParseAddress portId) (.IBCInvalidPortIdentifier portId)
  require (IBCIdentifiers.validateCustomIBCIdentifier H portId) (.IBCInvalidPortIdentifier portId)
  addIBCAppAt s portId app

/-- `sendPacket`: the caller must be the source port's app; the packet takes the next
sequence of its client and is committed. -/
def sendPacket (s : State) (env : Env) (msg : MsgSendPacket) : Except Revert (State × List Event) := do
  let ibcApp ← getIBCApp s msg.payload.sourcePort
  require (ibcApp = env.sender) (.IBCUnauthorizedSender env.sender)
  let counterparty ← getCounterparty s.clients msg.sourceClient
  require (msg.timeoutTimestamp.toNat > env.timestamp)
    (.IBCInvalidTimeoutTimestamp msg.timeoutTimestamp.toNat env.timestamp)
  require (msg.timeoutTimestamp.toNat - env.timestamp ≤ maxTimeoutDuration)
    (.IBCInvalidTimeoutDuration maxTimeoutDuration (msg.timeoutTimestamp.toNat - env.timestamp))
  let (store, sequence) ← IBCStore.nextSequenceSend s.store msg.sourceClient
  let packet : Packet := ⟨sequence, msg.sourceClient, counterparty.clientId, msg.timeoutTimestamp, [msg.payload]⟩
  let store ← IBCStore.commitPacket H store packet
  pure ({ s with store := store }, [.SendPacket packet])

/-- The acknowledgement `recvPacket` commits for the outcome of `onRecvPacket`, and the events
that go with it; an empty acknowledgement, the universal error acknowledgement and an empty
revert reason make the whole call revert. -/
def recvAcks (callback : Except Bytes Bytes) : Except Revert (Bytes × List Event) :=
  match callback with
  | .ok ack => do
    require (ack.length ≠ 0) .IBCAsyncAcknowledgementNotSupported
    require (H.keccak256 ack ≠ H.keccak256 universalErrorAck) .IBCErrorUniversalAcknowledgement
    pure (ack, [])
  | .error reason => do
    require (reason.length ≠ 0) .IBCFailedCallback
    pure (universalErrorAck, [.IBCAppRecvPacketCallbackError reason])

/-- `recvPacket`. -/
def recvPacket (s : State) (env : Env) (msg : MsgRecvPacket) (verify : MsgVerifyMembership → Bool)
    (callback : Except Bytes Bytes) (nested : List ClientCall) : Except Revert (State × List Event) := do
  require env.authorized .AccessManagedUnauthorized
  let payload ← singlePayload msg.packet
  let cInfo ← getCounterparty s.clients msg.packet.destClient
  require (H.keccak256 cInfo.clientId = H.keccak256 msg.packet.sourceClient)
    (.IBCInvalidCounterparty cInfo.clientId msg.packet.sourceClient)
  require (msg.packet.timeoutTimestamp.toNat > env.timestamp)
    (.IBCInvalidTimeoutTimestamp msg.packet.timeoutTimestamp.toNat env.timestamp)
  let commitmentPath := ICS24Host.packetCommitmentPathCalldata msg.packet.sourceClient msg.packet.sequence
  let commitmentBz := ICS24Host.packetCommitmentBytes32 H msg.packet
  let path ← (ICS24Host.prefixedPath cInfo.merklePrefix commitmentPath).mapError .ICS24
  let _ ← getClient s.clients msg.packet.destClient
  require (verify ⟨msg.proofCommitment, msg.proofHeight, path, commitmentBz⟩) .ExternalRevert
  let (store, fresh) ← IBCStore.setPacketReceipt H s.store msg.packet
  if !fresh then pure ({ s with store := store }, [.Noop])
  else
    let app ← getIBCApp s payload.destPort
    let (ack, ackEvents) ← recvAcks H callback
    let (s', nestedEvents) := recvCallbackCalls S H { s with store := store } callback nested
    let store ← IBCStore.commitPacketAcknowledgement H s'.store msg.packet [ack]
    pure ({ s' with store := store }, [.onRecvPacket app msg.packet] ++ nestedEvents ++ ackEvents ++
      [.WriteAcknowledgement msg.packet [ack]])

/-- `ackPacket`. -/
def ackPacket (s : State) (env : Env) (msg : MsgAckPacket) (verify : MsgVerifyMembership → Bool)
    (callbackOk : Bool) (nested : List ClientCall) : Except Revert (State × List Event) := do
  require env.authorized .AccessManagedUnauthorized
  let payload ← singlePayload msg.packet
  let cInfo ← getCounterparty s.clients msg.packet.sourceClient
  require (H.keccak256 cInfo.clientId = H.keccak256 msg.packet.destClient)
    (.IBCInvalidCounterparty cInfo.clientId msg.packet.destClient)
  let commitmentPath :=
    ICS24Host.packetAcknowledgementCommitmentPathCalldata msg.packet.destClient msg.packet.sequence
  let commitmentBz ← (ICS24Host.packetAcknowledgementCommitmentBytes32 H [msg.acknowledgement]).mapError .ICS24
  let path ← (ICS24Host.prefixedPath cInfo.merklePrefix commitmentPath).mapError .ICS24
  let _ ← getClient s.clients msg.packet.sourceClient
  require (verify ⟨msg.proofAcked, msg.proofHeight, path, commitmentBz⟩) .ExternalRevert
  let (store, found) ← IBCStore.checkAndDeletePacketCommitment H s.store msg.packet
  if !found then pure ({ s with store := store }, [.Noop])
  else
    let app ← getIBCApp s payload.sourcePort
    require callbackOk .ExternalRevert
    let (s', nestedEvents) := nestedCalls S H { s with store := store } nested
    pure (s', [.onAcknowledgementPacket app msg.packet msg.acknowledgement] ++ nestedEvents ++
      [.AckPacket msg.packet msg.acknowledgement])

/-- `timeoutPacket`. -/
def timeoutPacket (s : State) (env : Env) (msg : MsgTimeoutPacket) (verify : MsgVerifyNonMembership → Option ℕ)
    (callbackOk : Bool) (nested : List ClientCall) : Except Revert (State × List Event) := do
  require env.authorized .AccessManagedUnauthorized
  let payload ← singlePayload msg.packet
  let cInfo ← getCounterparty s.clients msg.packet.sourceClient
  require (H.keccak256 cInfo.clientId = H.keccak256 msg.packet.destClient)
    (.IBCInvalidCounterparty cInfo.clientId msg.packet.destClient)
  let receiptPath := ICS24Host.packetReceiptCommitmentPathCalldata msg.packet.destClient msg.packet.sequence
  let path ← (ICS24Host.prefixedPath cInfo.merklePrefix receiptPath).mapError .ICS24
  let _ ← getClient s.clients msg.packet.sourceClient
  let counterpartyTimestamp ← expect (verify ⟨msg.proofTimeout, msg.proofHeight, path⟩) .ExternalRevert
  require (counterpartyTimestamp ≥ msg.packet.timeoutTimestamp.toNat)
    (.IBCInvalidTimeoutTimestamp msg.packet.timeoutTimestamp.toNat counterpartyTimestamp)
  let (store, found) ← IBCStore.checkAndDeletePacketCommitment H s.store msg.packet
  if !found then pure ({ s with store := store }, [.Noop])
  else
    let app ← getIBCApp s payload.sourcePort
    require callbackOk .ExternalRevert
    let (s', nestedEvents) := nestedCalls S H { s with store := store } nested
    pure (s', [.onTimeoutPacket app msg.packet] ++ nestedEvents ++ [.TimeoutPacket msg.packet])

/-- One transaction into the router. -/
def step (s : State) : Env × Call → Except Revert (State × List Event)
  | (_, .addIBCApp app) => addIBCAppAt s (S.toHexString app) app
  | (env, .addIBCAppWithPort portId app) => addIBCAppWithPort S H s env portId app
  | (env, .sendPacket msg) => sendPacket H s env msg
  | (env, .recvPacket msg verify callback nested) => recvPacket S H s env msg verify callback nested
  | (env, .ackPacket msg verify callbackOk nested) => ackPacket S H s env msg verify callbackOk nested
  | (env, .timeoutPacket msg verify callbackOk nested) => timeoutPacket S H s env msg verify callbackOk nested
  | (_, .client c) => clientStep S H s c

end ICS26Router
