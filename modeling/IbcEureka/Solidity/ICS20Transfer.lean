/-
# ICS20 transfers on Ethereum: the denom maps and the vouchers

`ICS20Transfer` keeps one escrow per client and two maps between denoms
and token contracts: `_ibcERC20Contracts` from a denom path to its voucher
(an `IBCERC20` the contract deploys, or a custom ERC20 an authorized caller
sets) and `_ibcERC20Denoms` back. Two operations write them, with different
checks: `_getOrCreateIBCERC20`, on the first receipt of a path, deploys a
voucher and registers it both ways; the restricted `setCustomERC20`
registers a given token under a given denom when neither has an entry yet.

The contract calls tokens, escrows, permit2, the router and senders' callback
hooks. Each such call is an `Output`, which the call's `Env` lets succeed or
not (`Env.externalOk`); a call that fails reverts the whole transaction.
OpenZeppelin's `Strings`, the `abi.decode` of packet data and the addresses
that `new` deploys at are the contract's `Externals`.

While the contract deploys at distinct non-zero addresses (for nonces below
some `N`: there are only `2^160` addresses), the two maps are inverse to each
other (`DenomMapsInv`) in every state reached by calls whose `setCustomERC20`
registers a non-zero token that is none of those addresses under a non-empty
denom (`reachable_denomMapsInv`). A receipt of a token that
is not returning home mints, into the escrow of the destination client,
the voucher registered for the path `transfer/<client>/<denom>`, and deploys
it only when the path has none (`onRecvPacket_voucher`). `setCustomERC20`
checks neither the token nor the denom: an empty denom or the zero address
leaves one map without its inverse entry (`empty_custom_denom_breaks_bijection`).

Key definitions: `ICS20Transfer.ICS20TransferStorage`, `ICS20Transfer.getOrCreateIBCERC20`,
`ICS20Transfer.setCustomERC20`, `ICS20Transfer.onRecvPacket`, `ICS20Transfer.step`,
`ICS20Transfer.DenomMapsInv`.
Key theorems: `ICS20Transfer.DenomMapsInv.register`, `ICS20Transfer.step_storage`,
`ICS20Transfer.reachable_denomMapsInv`, `ICS20Transfer.onRecvPacket_voucher`.
-/
import IbcEureka.Solidity.ICS26Router
import IbcEureka.Lib.Txn

namespace ICS20Transfer

open Txn

/-- `DEFAULT_PORT_ID`, `"transfer"`. -/
def defaultPortId : Bytes := [0x74, 0x72, 0x61, 0x6e, 0x73, 0x66, 0x65, 0x72]

/-- `ICS20_VERSION`, `"ics20-1"`. -/
def ics20Version : Bytes := [0x69, 0x63, 0x73, 0x32, 0x30, 0x2d, 0x31]

/-- `ICS20_ENCODING`, `"application/x-solidity-abi"`. -/
def ics20Encoding : Bytes :=
  [0x61, 0x70, 0x70, 0x6c, 0x69, 0x63, 0x61, 0x74, 0x69, 0x6f, 0x6e, 0x2f, 0x78, 0x2d, 0x73, 0x6f, 0x6c, 0x69,
   0x64, 0x69, 0x74, 0x79, 0x2d, 0x61, 0x62, 0x69]

/-- `SUCCESSFUL_ACKNOWLEDGEMENT_JSON`, the JSON `{"result":"AQ=="}`. -/
def successfulAcknowledgementJson : Bytes :=
  [0x7b, 0x22, 0x72, 0x65, 0x73, 0x75, 0x6c, 0x74, 0x22, 0x3a, 0x22, 0x41, 0x51, 0x3d, 0x3d, 0x22, 0x7d]

/-- `ICS20Lib.getDenomPrefix(portId, clientId)`: `portId/clientId/`. -/
def getDenomPrefix (portId clientId : Bytes) : Bytes :=
  Abi.encodePacked [.raw portId, .raw [0x2f], .raw clientId, .raw [0x2f]]

/-- `IICS20TransferMsgs.FungibleTokenPacketData`. -/
structure FungibleTokenPacketData where
  denom : Bytes
  sender : Bytes
  receiver : Bytes
  amount : ℕ
  memo : Bytes
  deriving DecidableEq, Repr

/-- `abi.encode(packetData)`: one dynamic tuple. -/
def FungibleTokenPacketData.encode (d : FungibleTokenPacketData) : Bytes :=
  Abi.encode [.tuple [.bytes d.denom, .bytes d.sender, .bytes d.receiver, .uint d.amount, .bytes d.memo]]

/-- `IICS20TransferMsgs.SendTransferMsg`. -/
structure SendTransferMsg where
  denom : Address
  amount : ℕ
  receiver : Bytes
  sourceClient : Bytes
  destPort : Bytes
  timeoutTimestamp : UInt64
  memo : Bytes
  deriving DecidableEq, Repr

/-- `IIBCAppCallbacks.OnRecvPacketCallback`, and the timeout's, which has the same fields. -/
structure OnRecvPacketCallback where
  sourceClient : Bytes
  destinationClient : Bytes
  sequence : UInt64
  payload : Payload
  relayer : Address
  deriving DecidableEq, Repr

/-- `IIBCAppCallbacks.OnAcknowledgementPacketCallback`. -/
structure OnAcknowledgementPacketCallback where
  sourceClient : Bytes
  destinationClient : Bytes
  sequence : UInt64
  payload : Payload
  acknowledgement : Bytes
  relayer : Address
  deriving DecidableEq, Repr

/-- The custom errors (and other reverts) of `ICS20Transfer`. -/
inductive Revert
  | ICS20Unauthorized (caller : Address)
  | ICS20InvalidAddress (addr : Bytes)
  | ICS20InvalidAmount (amount : ℕ)
  | ICS20UnexpectedVersion (expected version : Bytes)
  | ICS20UnexpectedEncoding (expected actual : Bytes)
  | ICS20DenomNotFound (denom : Bytes)
  | ICS20Permit2TokenMismatch (permitToken sentToken : Address)
  | ICS20InvalidPort (expected actual : Bytes)
  | ICS20EscrowNotFound (clientId : Bytes)
  | ICS20DenomAlreadyExists (denom : Bytes)
  | ICS20TokenAlreadyExists (denom : Bytes)
  /-- `EnforcedPause` and `ExpectedPause`. -/
  | EnforcedPause
  | ExpectedPause
  | AccessManagedUnauthorized (caller : Address)
  /-- A revert of `abi.decode`. -/
  | AbiDecodeFailed
  /-- A revert of a call into another contract. -/
  | ExternalRevert
  deriving DecidableEq, Repr

/-- The calls `ICS20Transfer` makes into other contracts, and its events. -/
inductive Output
  /-- `_transferFrom`: `token.safeTransferFrom(owner, escrow, amount)` with the balance check. -/
  | transferFrom (token owner escrow : Address) (amount : ℕ)
  /-- `_transferFromWithPermit2`: the same through permit2, with the balance check. -/
  | permit2TransferFrom (token owner escrow : Address) (amount : ℕ)
  /-- `escrow.recvCallback(token, sender, amount)`. -/
  | escrowRecvCallback (escrow token sender : Address) (amount : ℕ)
  /-- `IMintableAndBurnable(token).burn(holder, amount)`. -/
  | burn (token holder : Address) (amount : ℕ)
  /-- `IMintableAndBurnable(token).mint(recipient, amount)`. -/
  | mint (token recipient : Address) (amount : ℕ)
  /-- `escrow.send(token, recipient, amount)`. -/
  | escrowSend (escrow token recipient : Address) (amount : ℕ)
  /-- `ics26.sendPacket(MsgSendPacket(sourceClient, timeoutTimestamp, payload))`. -/
  | sendPacket (sourceClient : Bytes) (timeoutTimestamp : UInt64) (payload : Payload)
  /-- `IBCSenderCallbacksLib.ackPacketCallback(sender, success, msg)`. -/
  | ackPacketCallback (sender : Address) (success : Bool)
  /-- `IBCSenderCallbacksLib.timeoutPacketCallback(sender, msg)`. -/
  | timeoutPacketCallback (sender : Address)
  /-- The event `IBCERC20ContractCreated(erc20, fullDenomPath)`. -/
  | IBCERC20ContractCreated (erc20 : Address) (fullDenomPath : Bytes)
  /-- What `onRecvPacket` returns to the router. -/
  | acknowledgement (ack : Bytes)
  deriving DecidableEq, Repr

/-- `ICS20TransferStorage`, with the number of contracts the contract has deployed (its `CREATE`
nonce) and the pause flag. -/
structure ICS20TransferStorage where
  escrows : Bytes → Address
  ibcERC20Contracts : Bytes → Address
  ibcERC20Denoms : Address → Bytes
  ics26 : Address
  paused : Bool
  deployed : ℕ

/-- The storage after `initialize(ics26Router, …)`: no escrow, no mapped denom. -/
def ICS20TransferStorage.init (ics26 : Address) : ICS20TransferStorage :=
  ⟨fun _ => 0, fun _ => 0, fun _ => [], ics26, false, 0⟩

/-- What the contract takes from outside the repository: OpenZeppelin's `Strings.toHexString` and
`Strings.tryParseAddress`, `abi.decode` of packet data (`none` where it reverts), and the address of
the `n`th contract the contract deploys. -/
structure Externals where
  toHexString : Address → Bytes
  tryParseAddress : Bytes → Option Address
  decodePacketData : Bytes → Option FungibleTokenPacketData
  create : ℕ → Address

/-- What the caller and the chain give a call: `msg.sender`, the access manager's verdict for a
`restricted` entry point, and which calls into other contracts succeed. -/
structure Env where
  sender : Address
  authorized : Bool
  externalOk : Output → Bool

variable (X : Externals) (H : Hashes)

/-- A call into another contract: it is logged, or it reverts the transaction. -/
def external (env : Env) (o : Output) : Except Revert (List Output) :=
  if env.externalOk o then .ok [o] else .error .ExternalRevert

/-- `ICS20Lib.mustHexStringToAddress`. -/
def mustHexStringToAddress (s : Bytes) : Except Revert Address :=
  expect (X.tryParseAddress s) (.ICS20InvalidAddress s)

/-- The modifier `whenNotPaused`. -/
def whenNotPaused (s : ICS20TransferStorage) : Except Revert Unit := require (s.paused = false) .EnforcedPause

/-- The modifier `restricted`. -/
def restricted (env : Env) : Except Revert Unit := require (env.authorized = true) (.AccessManagedUnauthorized env.sender)

/-- The modifier `onlyRouter`. -/
def onlyRouter (s : ICS20TransferStorage) (env : Env) : Except Revert Unit :=
  require (env.sender = s.ics26) (.ICS20Unauthorized env.sender)

/-- `_getOrCreateEscrow(clientId)`: the client's escrow, deployed on first use. -/
def getOrCreateEscrow (s : ICS20TransferStorage) (clientId : Bytes) : Address × ICS20TransferStorage :=
  let escrow := s.escrows clientId
  if escrow = 0 then
    let escrow := X.create s.deployed
    (escrow, { s with escrows := Function.update s.escrows clientId escrow, deployed := s.deployed + 1 })
  else (escrow, s)

/-- `_getOrCreateIBCERC20(fullDenomPath, escrow)`: the voucher registered for the path; on first use
one is deployed and registered both ways. -/
def getOrCreateIBCERC20 (s : ICS20TransferStorage) (fullDenomPath : Bytes) :
    Address × ICS20TransferStorage × List Output :=
  let erc20Contract := s.ibcERC20Contracts fullDenomPath
  if erc20Contract = 0 then
    let proxy := X.create s.deployed
    (proxy,
      { s with
        ibcERC20Contracts := Function.update s.ibcERC20Contracts fullDenomPath proxy
        ibcERC20Denoms := Function.update s.ibcERC20Denoms proxy fullDenomPath
        deployed := s.deployed + 1 },
      [.IBCERC20ContractCreated proxy fullDenomPath])
  else (erc20Contract, s, [])

/-- `setCustomERC20(denom, token)`, `restricted`: neither the denom nor the token has an entry. -/
def setCustomERC20 (env : Env) (s : ICS20TransferStorage) (denom : Bytes) (token : Address) :
    Except Revert (ICS20TransferStorage × List Output) := do
  restricted env
  require (s.ibcERC20Contracts denom = 0) (.ICS20DenomAlreadyExists denom)
  require (s.ibcERC20Denoms token = []) (.ICS20TokenAlreadyExists (s.ibcERC20Denoms token))
  pure ({ s with
    ibcERC20Contracts := Function.update s.ibcERC20Contracts denom token
    ibcERC20Denoms := Function.update s.ibcERC20Denoms token denom }, [])

/-- `_sendTransferFromEscrowWithSender(msg, escrow, sender)`: a mapped token returning over the
client it came from is burnt; the packet names the denom path, or the token's address for a
native one. -/
def sendTransferFromEscrowWithSender (env : Env) (s : ICS20TransferStorage) (msg : SendTransferMsg)
    (escrow sender : Address) : Except Revert (List Output) := do
  let fullDenomPath := s.ibcERC20Denoms msg.denom
  let (fullDenomPath, burnt) ←
    if fullDenomPath = [] then pure (X.toHexString msg.denom, [])
    else if IBCIdentifiers.hasPrefix H fullDenomPath (getDenomPrefix defaultPortId msg.sourceClient) then do
      let burnt ← external env (.burn msg.denom escrow msg.amount)
      pure (fullDenomPath, burnt)
    else pure (fullDenomPath, [])
  let packetData : FungibleTokenPacketData := ⟨fullDenomPath, X.toHexString sender, msg.receiver, msg.amount, msg.memo⟩
  let sent ← external env (.sendPacket msg.sourceClient msg.timeoutTimestamp
    ⟨defaultPortId, defaultPortId, ics20Version, ics20Encoding, packetData.encode⟩)
  pure (burnt ++ sent)

/-- The three `sendTransfer` entry points: the tokens move from the caller into the client's escrow,
directly or through permit2, and the packet names `sender`. -/
def sendTransferFrom (env : Env) (s : ICS20TransferStorage) (msg : SendTransferMsg) (viaPermit2 : Bool)
    (sender : Address) : Except Revert (ICS20TransferStorage × List Output) := do
  require (0 < msg.amount) (.ICS20InvalidAmount 0)
  let (escrow, s) := getOrCreateEscrow X s msg.sourceClient
  let moved ← external env (if viaPermit2 then .permit2TransferFrom msg.denom env.sender escrow msg.amount
    else .transferFrom msg.denom env.sender escrow msg.amount)
  let called ← external env (.escrowRecvCallback escrow msg.denom env.sender msg.amount)
  let sent ← sendTransferFromEscrowWithSender X H env s msg escrow sender
  pure (s, moved ++ called ++ sent)

/-- `sendTransfer(msg)`. -/
def sendTransfer (env : Env) (s : ICS20TransferStorage) (msg : SendTransferMsg) :
    Except Revert (ICS20TransferStorage × List Output) := do
  whenNotPaused s
  sendTransferFrom X H env s msg false env.sender

/-- `sendTransferWithPermit2(msg, permit, signature)`; `permitToken` is `permit.permitted.token`. -/
def sendTransferWithPermit2 (env : Env) (s : ICS20TransferStorage) (msg : SendTransferMsg) (permitToken : Address) :
    Except Revert (ICS20TransferStorage × List Output) := do
  whenNotPaused s
  require (0 < msg.amount) (.ICS20InvalidAmount 0)
  require (permitToken = msg.denom) (.ICS20Permit2TokenMismatch permitToken msg.denom)
  sendTransferFrom X H env s msg true env.sender

/-- `sendTransferWithSender(msg, sender)`, `restricted`. -/
def sendTransferWithSender (env : Env) (s : ICS20TransferStorage) (msg : SendTransferMsg) (sender : Address) :
    Except Revert (ICS20TransferStorage × List Output) := do
  whenNotPaused s
  restricted env
  sendTransferFrom X H env s msg false sender

/-- The checks of a packet's payload: version, ports and encoding, compared by their Keccak-256. -/
def checkPayload (payload : Payload) : Except Revert Unit := do
  require (H.keccak256 payload.version = H.keccak256 ics20Version) (.ICS20UnexpectedVersion ics20Version payload.version)
  require (H.keccak256 payload.sourcePort = H.keccak256 defaultPortId) (.ICS20InvalidPort defaultPortId payload.sourcePort)
  require (H.keccak256 payload.encoding = H.keccak256 ics20Encoding)
    (.ICS20UnexpectedEncoding ics20Encoding payload.encoding)
  require (H.keccak256 payload.destPort = H.keccak256 defaultPortId) (.ICS20InvalidPort defaultPortId payload.destPort)

/-- `onRecvPacket(msg)`: a token returning home is released from escrow (a native token by its
address, a forwarded voucher by its path); any other gets the voucher of its path prefixed by
this side's port and client, minted into the escrow first. -/
def onRecvPacket (env : Env) (s : ICS20TransferStorage) (msg : OnRecvPacketCallback) :
    Except Revert (ICS20TransferStorage × List Output) := do
  onlyRouter s env
  whenNotPaused s
  checkPayload H msg.payload
  let packetData ← expect (X.decodePacketData msg.payload.value) .AbiDecodeFailed
  require (0 < packetData.amount) (.ICS20InvalidAmount 0)
  let receiver ← mustHexStringToAddress X packetData.receiver
  let (escrow, s) := getOrCreateEscrow X s msg.destinationClient
  let pfx := getDenomPrefix msg.payload.sourcePort msg.sourceClient
  let (erc20Address, s, minted) ←
    if IBCIdentifiers.hasPrefix H packetData.denom pfx then do
      -- the first hop removed; a native token if what is left parses as a non-zero address
      let newDenom := packetData.denom.drop pfx.length
      match X.tryParseAddress newDenom with
      | some erc20Address =>
        if erc20Address ≠ 0 then pure (erc20Address, s, [])
        else do
          let erc20Address := s.ibcERC20Contracts newDenom
          require (erc20Address ≠ 0) (.ICS20DenomNotFound newDenom)
          pure (erc20Address, s, [])
      | none => do
        let erc20Address := s.ibcERC20Contracts newDenom
        require (erc20Address ≠ 0) (.ICS20DenomNotFound newDenom)
        pure (erc20Address, s, [])
    else do
      let newDenom := getDenomPrefix msg.payload.destPort msg.destinationClient ++ packetData.denom
      let (erc20Address, s, created) := getOrCreateIBCERC20 X s newDenom
      let minted ← external env (.mint erc20Address escrow packetData.amount)
      pure (erc20Address, s, created ++ minted)
  let sent ← external env (.escrowSend escrow erc20Address receiver packetData.amount)
  pure (s, minted ++ sent ++ [Output.acknowledgement successfulAcknowledgementJson])

/-- `_refundTokens(sourcePort, sourceClient, packetData)`: the tokens go back to the sender from
the client's escrow, a voucher that was burnt on its way home minted back first. -/
def refundTokens (env : Env) (s : ICS20TransferStorage) (sourcePort sourceClient : Bytes)
    (packetData : FungibleTokenPacketData) : Except Revert (Address × List Output) := do
  let escrow := s.escrows sourceClient
  require (escrow ≠ 0) (.ICS20EscrowNotFound sourceClient)
  let refundee ← mustHexStringToAddress X packetData.sender
  let (erc20Address, minted) ←
    if IBCIdentifiers.hasPrefix H packetData.denom (getDenomPrefix sourcePort sourceClient) then do
      let erc20Address := s.ibcERC20Contracts packetData.denom
      require (erc20Address ≠ 0) (.ICS20DenomNotFound packetData.denom)
      let minted ← external env (.mint erc20Address escrow packetData.amount)
      pure (erc20Address, minted)
    else
      let erc20Address := s.ibcERC20Contracts packetData.denom
      if erc20Address = 0 then do
        let erc20Address ← mustHexStringToAddress X packetData.denom
        require (erc20Address ≠ 0) (.ICS20DenomNotFound packetData.denom)
        pure (erc20Address, [])
      else pure (erc20Address, [])
  let sent ← external env (.escrowSend escrow erc20Address refundee packetData.amount)
  pure (refundee, minted ++ sent)

/-- `onAcknowledgementPacket(msg)`: the universal error acknowledgement refunds. -/
def onAcknowledgementPacket (env : Env) (s : ICS20TransferStorage) (msg : OnAcknowledgementPacketCallback) :
    Except Revert (ICS20TransferStorage × List Output) := do
  onlyRouter s env
  whenNotPaused s
  let packetData ← expect (X.decodePacketData msg.payload.value) .AbiDecodeFailed
  if H.keccak256 msg.acknowledgement = H.keccak256 ICS26Router.universalErrorAck then do
    let (sender, refunded) ← refundTokens X H env s msg.payload.sourcePort msg.sourceClient packetData
    let called ← external env (.ackPacketCallback sender false)
    pure (s, refunded ++ called)
  else do
    let sender ← mustHexStringToAddress X packetData.sender
    let called ← external env (.ackPacketCallback sender true)
    pure (s, called)

/-- `onTimeoutPacket(msg)`: a refund. -/
def onTimeoutPacket (env : Env) (s : ICS20TransferStorage) (msg : OnRecvPacketCallback) :
    Except Revert (ICS20TransferStorage × List Output) := do
  onlyRouter s env
  whenNotPaused s
  let packetData ← expect (X.decodePacketData msg.payload.value) .AbiDecodeFailed
  let (sender, refunded) ← refundTokens X H env s msg.payload.sourcePort msg.sourceClient packetData
  let called ← external env (.timeoutPacketCallback sender)
  pure (s, refunded ++ called)

/-- `pause()` and `unpause()`, `restricted`. -/
def setPaused (env : Env) (s : ICS20TransferStorage) (paused : Bool) :
    Except Revert (ICS20TransferStorage × List Output) := do
  restricted env
  require (s.paused = !paused) (if paused then .EnforcedPause else .ExpectedPause)
  pure ({ s with paused := paused }, [])

/-- The entry points that write the contract's storage. -/
inductive Call
  | sendTransfer (msg : SendTransferMsg)
  | sendTransferWithPermit2 (msg : SendTransferMsg) (permitToken : Address)
  | sendTransferWithSender (msg : SendTransferMsg) (sender : Address)
  | setCustomERC20 (denom : Bytes) (token : Address)
  | onRecvPacket (msg : OnRecvPacketCallback)
  | onAcknowledgementPacket (msg : OnAcknowledgementPacketCallback)
  | onTimeoutPacket (msg : OnRecvPacketCallback)
  | pause
  | unpause
  deriving DecidableEq, Repr

/-- One call to the contract. -/
def step (s : ICS20TransferStorage) : Env × Call → Except Revert (ICS20TransferStorage × List Output)
  | (env, .sendTransfer msg) => sendTransfer X H env s msg
  | (env, .sendTransferWithPermit2 msg permitToken) => sendTransferWithPermit2 X H env s msg permitToken
  | (env, .sendTransferWithSender msg sender) => sendTransferWithSender X H env s msg sender
  | (env, .setCustomERC20 denom token) => setCustomERC20 env s denom token
  | (env, .onRecvPacket msg) => onRecvPacket X H env s msg
  | (env, .onAcknowledgementPacket msg) => onAcknowledgementPacket X H env s msg
  | (env, .onTimeoutPacket msg) => onTimeoutPacket X H env s msg
  | (env, .pause) => setPaused env s true
  | (env, .unpause) => setPaused env s false

/-! ## Deploying escrows and vouchers -/

section Deploy

variable {X} {s : ICS20TransferStorage}

theorem getOrCreateEscrow_of_ne {clientId : Bytes} (h : s.escrows clientId ≠ 0) :
    getOrCreateEscrow X s clientId = (s.escrows clientId, s) := by
  simp only [getOrCreateEscrow]
  rw [if_neg h]

theorem getOrCreateEscrow_of_eq {clientId : Bytes} (h : s.escrows clientId = 0) :
    getOrCreateEscrow X s clientId =
      (X.create s.deployed,
        { s with
          escrows := Function.update s.escrows clientId (X.create s.deployed)
          deployed := s.deployed + 1 }) := by
  simp only [getOrCreateEscrow]
  rw [if_pos h]

theorem getOrCreateEscrow_maps (clientId : Bytes) :
    (getOrCreateEscrow X s clientId).2.ibcERC20Contracts = s.ibcERC20Contracts ∧
      (getOrCreateEscrow X s clientId).2.ibcERC20Denoms = s.ibcERC20Denoms ∧
      s.deployed ≤ (getOrCreateEscrow X s clientId).2.deployed := by
  by_cases h : s.escrows clientId = 0
  · rw [getOrCreateEscrow_of_eq h]
    exact ⟨rfl, rfl, Nat.le_succ _⟩
  · rw [getOrCreateEscrow_of_ne h]
    exact ⟨rfl, rfl, le_rfl⟩

theorem getOrCreateEscrow_escrows (clientId : Bytes) :
    (getOrCreateEscrow X s clientId).2.escrows clientId = (getOrCreateEscrow X s clientId).1 := by
  by_cases h : s.escrows clientId = 0
  · rw [getOrCreateEscrow_of_eq h]
    simp
  · rw [getOrCreateEscrow_of_ne h]

theorem getOrCreateIBCERC20_of_ne {p : Bytes} (h : s.ibcERC20Contracts p ≠ 0) :
    getOrCreateIBCERC20 X s p = (s.ibcERC20Contracts p, s, []) := by
  simp only [getOrCreateIBCERC20]
  rw [if_neg h]

theorem getOrCreateIBCERC20_of_eq {p : Bytes} (h : s.ibcERC20Contracts p = 0) :
    getOrCreateIBCERC20 X s p =
      (X.create s.deployed,
        { s with
          ibcERC20Contracts := Function.update s.ibcERC20Contracts p (X.create s.deployed)
          ibcERC20Denoms := Function.update s.ibcERC20Denoms (X.create s.deployed) p
          deployed := s.deployed + 1 },
        [.IBCERC20ContractCreated (X.create s.deployed) p]) := by
  simp only [getOrCreateIBCERC20]
  rw [if_pos h]

theorem getOrCreateIBCERC20_registered (p : Bytes) :
    (getOrCreateIBCERC20 X s p).2.1.ibcERC20Contracts p = (getOrCreateIBCERC20 X s p).1 := by
  by_cases h : s.ibcERC20Contracts p = 0
  · rw [getOrCreateIBCERC20_of_eq h]
    simp
  · rw [getOrCreateIBCERC20_of_ne h]

theorem getOrCreateIBCERC20_deployed_le (p : Bytes) :
    s.deployed ≤ (getOrCreateIBCERC20 X s p).2.1.deployed := by
  by_cases h : s.ibcERC20Contracts p = 0
  · rw [getOrCreateIBCERC20_of_eq h]
    exact Nat.le_succ _
  · rw [getOrCreateIBCERC20_of_ne h]

@[simp] theorem getOrCreateIBCERC20_escrows (p : Bytes) :
    (getOrCreateIBCERC20 X s p).2.1.escrows = s.escrows := by
  by_cases h : s.ibcERC20Contracts p = 0
  · rw [getOrCreateIBCERC20_of_eq h]
  · rw [getOrCreateIBCERC20_of_ne h]

end Deploy

/-! ## The two maps are inverse to each other -/

/-- `_ibcERC20Contracts` and `_ibcERC20Denoms` are inverse to each other, a zero address and an
empty denom standing for no entry; and no contract the contract is yet to deploy, below the
nonce `N`, has a denom. -/
structure DenomMapsInv (N : ℕ) (s : ICS20TransferStorage) : Prop where
  inverse : ∀ d t, (s.ibcERC20Contracts d = t ∧ t ≠ 0) ↔ (s.ibcERC20Denoms t = d ∧ d ≠ [])
  fresh : ∀ k, s.deployed ≤ k → k < N → s.ibcERC20Denoms (X.create k) = []

/-- **Registering a pair keeps the maps inverse**, when neither the denom nor the token had an
entry, the token is not zero and the denom not empty. -/
theorem inverse_register {contracts : Bytes → Address} {denoms : Address → Bytes}
    (hinv : ∀ d t, (contracts d = t ∧ t ≠ 0) ↔ (denoms t = d ∧ d ≠ [])) {d₀ : Bytes} {t₀ : Address}
    (hd : contracts d₀ = 0) (ht : denoms t₀ = []) (ht₀ : t₀ ≠ 0) (hd₀ : d₀ ≠ []) :
    ∀ d t, (Function.update contracts d₀ t₀ d = t ∧ t ≠ 0) ↔ (Function.update denoms t₀ d₀ t = d ∧ d ≠ []) := by
  intro d t
  by_cases hdd : d = d₀
  · subst hdd
    by_cases htt : t = t₀
    · subst htt
      simp only [Function.update_self, true_and]
      exact ⟨fun _ => hd₀, fun _ => ht₀⟩
    · rw [Function.update_self, Function.update_of_ne htt]
      constructor
      · rintro ⟨rfl, -⟩
        exact absurd rfl htt
      · -- an old reverse entry `d` for `t` would give `d` a contract
        rintro ⟨hback, -⟩
        have hfwd := (hinv d t).mpr ⟨hback, hd₀⟩
        rw [hd] at hfwd
        exact absurd hfwd.1.symm hfwd.2
  · rw [Function.update_of_ne hdd]
    by_cases htt : t = t₀
    · subst htt
      rw [Function.update_self]
      constructor
      · -- an old contract entry for `t` would give `t` a denom
        rintro ⟨hc, hne⟩
        have hback := (hinv d t).mp ⟨hc, hne⟩
        rw [ht] at hback
        exact absurd hback.1.symm hback.2
      · rintro ⟨rfl, -⟩
        exact absurd rfl hdd
    · rw [Function.update_of_ne htt]
      exact hinv d t

/-! ## What each call writes -/

section Calls

variable {X H} {env : Env} {s s' : ICS20TransferStorage} {outs : List Output}

@[simp] theorem external_eq_ok {o : Output} {called : List Output} :
    external env o = .ok called ↔ env.externalOk o = true ∧ called = [o] := by
  unfold external
  by_cases ho : env.externalOk o = true
  · rw [if_pos ho]
    simp only [Except.ok.injEq, ho, true_and]
    exact eq_comm
  · rw [if_neg ho]
    simp [ho]

theorem getDenomPrefix_ne_nil (portId clientId : Bytes) : getDenomPrefix portId clientId ≠ [] := by
  simp [getDenomPrefix]

theorem sendTransferFrom_storage {msg : SendTransferMsg} {viaPermit2 : Bool} {sender : Address}
    (h : sendTransferFrom X H env s msg viaPermit2 sender = .ok (s', outs)) :
    s' = (getOrCreateEscrow X s msg.sourceClient).2 := by
  unfold sendTransferFrom at h
  rw [require_bind_eq_ok] at h
  obtain ⟨-, h⟩ := h
  rcases he : getOrCreateEscrow X s msg.sourceClient with ⟨escrow, s₁⟩
  rw [he] at h
  simp only [bind_eq_ok, pure_eq_ok, Prod.mk.injEq] at h
  obtain ⟨_, _, _, _, _, _, rfl, -⟩ := h
  rfl

theorem sendTransfer_storage {msg : SendTransferMsg} (h : sendTransfer X H env s msg = .ok (s', outs)) :
    s' = (getOrCreateEscrow X s msg.sourceClient).2 := by
  simp only [sendTransfer, whenNotPaused, require_bind_eq_ok] at h
  exact sendTransferFrom_storage h.2

theorem sendTransferWithPermit2_storage {msg : SendTransferMsg} {permitToken : Address}
    (h : sendTransferWithPermit2 X H env s msg permitToken = .ok (s', outs)) :
    s' = (getOrCreateEscrow X s msg.sourceClient).2 := by
  simp only [sendTransferWithPermit2, whenNotPaused, require_bind_eq_ok] at h
  exact sendTransferFrom_storage h.2.2.2

theorem sendTransferWithSender_storage {msg : SendTransferMsg} {sender : Address}
    (h : sendTransferWithSender X H env s msg sender = .ok (s', outs)) :
    s' = (getOrCreateEscrow X s msg.sourceClient).2 := by
  simp only [sendTransferWithSender, whenNotPaused, restricted, require_bind_eq_ok] at h
  exact sendTransferFrom_storage h.2.2

theorem onAcknowledgementPacket_storage {msg : OnAcknowledgementPacketCallback}
    (h : onAcknowledgementPacket X H env s msg = .ok (s', outs)) : s' = s := by
  unfold onAcknowledgementPacket at h
  simp only [onlyRouter, whenNotPaused, bind_eq_ok, require_eq_ok, exists_const, expect_eq_ok] at h
  obtain ⟨-, -, packetData, -, h⟩ := h
  split at h
  · simp only [bind_eq_ok, pure_eq_ok, Prod.mk.injEq] at h
    obtain ⟨_, -, _, -, rfl, -⟩ := h
    rfl
  · simp only [bind_eq_ok, pure_eq_ok, Prod.mk.injEq] at h
    obtain ⟨_, -, _, -, rfl, -⟩ := h
    rfl

theorem onTimeoutPacket_storage {msg : OnRecvPacketCallback}
    (h : onTimeoutPacket X H env s msg = .ok (s', outs)) : s' = s := by
  unfold onTimeoutPacket at h
  simp only [onlyRouter, whenNotPaused, bind_eq_ok, require_eq_ok, exists_const, expect_eq_ok, pure_eq_ok,
    Prod.mk.injEq] at h
  obtain ⟨-, -, _, -, _, -, _, -, rfl, -⟩ := h
  rfl

theorem setPaused_storage {paused : Bool} (h : setPaused env s paused = .ok (s', outs)) :
    s' = { s with paused := paused } := by
  simp only [setPaused, restricted, require_bind_eq_ok, pure_eq_ok, Prod.mk.injEq] at h
  exact h.2.2.1.symm

theorem setCustomERC20_eq_ok {denom : Bytes} {token : Address} :
    setCustomERC20 env s denom token = .ok (s', outs) ↔
      env.authorized = true ∧ s.ibcERC20Contracts denom = 0 ∧ s.ibcERC20Denoms token = [] ∧
        s' = { s with
          ibcERC20Contracts := Function.update s.ibcERC20Contracts denom token
          ibcERC20Denoms := Function.update s.ibcERC20Denoms token denom } ∧ outs = [] := by
  simp only [setCustomERC20, restricted, require_bind_eq_ok, pure_eq_ok, Prod.mk.injEq]
  constructor
  · rintro ⟨ha, hc, hd, rfl, rfl⟩
    exact ⟨ha, hc, hd, rfl, rfl⟩
  · rintro ⟨ha, hc, hd, rfl, rfl⟩
    exact ⟨ha, hc, hd, rfl, rfl⟩

/-- **A receipt, taken apart.** The router called and the payload passed its checks; the packet
data decoded, and the destination client's escrow was got or deployed. A token returning home
writes nothing more; any other gets the voucher of its path under this side's port and client,
minted into that escrow. -/
theorem onRecvPacket_eq_ok {msg : OnRecvPacketCallback} (h : onRecvPacket X H env s msg = .ok (s', outs)) :
    checkPayload H msg.payload = .ok () ∧ ∃ packetData receiver escrow s₁,
      X.decodePacketData msg.payload.value = some packetData ∧
      getOrCreateEscrow X s msg.destinationClient = (escrow, s₁) ∧
      (IBCIdentifiers.hasPrefix H packetData.denom (getDenomPrefix msg.payload.sourcePort msg.sourceClient) = true →
        s' = s₁) ∧
      (IBCIdentifiers.hasPrefix H packetData.denom (getDenomPrefix msg.payload.sourcePort msg.sourceClient) = false →
        ∃ voucher created,
          getOrCreateIBCERC20 X s₁ (getDenomPrefix msg.payload.destPort msg.destinationClient ++ packetData.denom) =
            (voucher, s', created) ∧
          outs = created ++ [.mint voucher escrow packetData.amount, .escrowSend escrow voucher receiver packetData.amount,
            .acknowledgement successfulAcknowledgementJson]) := by
  unfold onRecvPacket at h
  simp only [onlyRouter, whenNotPaused, bind_eq_ok, require_eq_ok, exists_const, expect_eq_ok] at h
  obtain ⟨-, -, ⟨⟩, hpay, packetData, hdec, -, receiver, -, h⟩ := h
  rcases he : getOrCreateEscrow X s msg.destinationClient with ⟨escrow, s₁⟩
  rw [he] at h
  dsimp only at h
  refine ⟨hpay, packetData, receiver, escrow, s₁, hdec, rfl, fun hp => ?_, fun hp => ?_⟩
  · -- a native token or a voucher going home: every way of finding it returns the state as it was
    rw [if_pos hp] at h
    split at h
    · split at h
      · simp only [bind_eq_ok, pure_eq_ok, external_eq_ok, Prod.mk.injEq] at h
        obtain ⟨_, rfl, _, -, rfl, -⟩ := h
        rfl
      · simp only [bind_eq_ok, require_eq_ok, exists_const, pure_eq_ok, external_eq_ok, Prod.mk.injEq] at h
        obtain ⟨-, _, rfl, _, -, rfl, -⟩ := h
        rfl
    · simp only [bind_eq_ok, require_eq_ok, exists_const, pure_eq_ok, external_eq_ok, Prod.mk.injEq] at h
      obtain ⟨-, _, rfl, _, -, rfl, -⟩ := h
      rfl
  · rw [if_neg (by simp [hp])] at h
    rcases hg : getOrCreateIBCERC20 X s₁ (getDenomPrefix msg.payload.destPort msg.destinationClient ++ packetData.denom)
      with ⟨voucher, s₂, created⟩
    rw [hg] at h
    simp only [bind_eq_ok, pure_eq_ok, external_eq_ok, Prod.mk.injEq] at h
    obtain ⟨_, ⟨-, rfl⟩, _, rfl, _, ⟨-, rfl⟩, rfl, rfl⟩ := h
    exact ⟨voucher, created, rfl, by simp⟩

/-- With Keccak-256 injective, a payload that passes the checks names the port `transfer` on
both sides. -/
theorem checkPayload_ports (hk : Function.Injective H.keccak256) {payload : Payload}
    (h : checkPayload H payload = .ok ()) : payload.sourcePort = defaultPortId ∧ payload.destPort = defaultPortId := by
  simp only [checkPayload, require_bind_eq_ok, require_eq_ok] at h
  exact ⟨hk h.2.1, hk h.2.2.2⟩

/-- **The voucher of a receipt.** With Keccak-256 injective, a receipt of a token that is not
returning home (its denom not prefixed by `transfer/<sourceClient>/`) mints, into the escrow of
the destination client `c`, the voucher that the path `transfer/c/<denom>` has afterwards: the one
it had, or one deployed, and logged, exactly when it had none. -/
theorem onRecvPacket_voucher (hk : Function.Injective H.keccak256) (hzero : ∀ k < s'.deployed, X.create k ≠ 0)
    {msg : OnRecvPacketCallback} {packetData : FungibleTokenPacketData}
    (hdec : X.decodePacketData msg.payload.value = some packetData)
    (hpfx : IBCIdentifiers.hasPrefix H packetData.denom (getDenomPrefix defaultPortId msg.sourceClient) = false)
    (h : onRecvPacket X H env s msg = .ok (s', outs)) :
    let path := getDenomPrefix defaultPortId msg.destinationClient ++ packetData.denom
    Output.mint (s'.ibcERC20Contracts path) (s'.escrows msg.destinationClient) packetData.amount ∈ outs ∧
      s'.ibcERC20Contracts path ≠ 0 ∧
      (s.ibcERC20Contracts path ≠ 0 → s'.ibcERC20Contracts path = s.ibcERC20Contracts path) ∧
      (Output.IBCERC20ContractCreated (s'.ibcERC20Contracts path) path ∈ outs ↔ s.ibcERC20Contracts path = 0) := by
  intro path
  obtain ⟨hpay, packetData', receiver, escrow, s₁, hdec', he, -, hother⟩ := onRecvPacket_eq_ok h
  obtain rfl : packetData' = packetData := Option.some.inj (hdec'.symm.trans hdec)
  obtain ⟨hsrc, hdst⟩ := checkPayload_ports hk hpay
  rw [hsrc, hdst] at hother
  obtain ⟨voucher, created, hg, rfl⟩ := hother hpfx
  -- the escrow leaves the maps, and the voucher the escrows
  have hc : s₁.ibcERC20Contracts = s.ibcERC20Contracts := by
    have hmaps := getOrCreateEscrow_maps (X := X) (s := s) msg.destinationClient
    rw [he] at hmaps
    exact hmaps.1
  have hesc : s'.escrows msg.destinationClient = escrow := by
    have h₁ := getOrCreateIBCERC20_escrows (X := X) (s := s₁) path
    have h₂ := getOrCreateEscrow_escrows (X := X) (s := s) msg.destinationClient
    rw [hg] at h₁
    rw [he] at h₂
    rw [h₁]
    exact h₂
  have hreg : s'.ibcERC20Contracts path = voucher := by
    have hr := getOrCreateIBCERC20_registered (X := X) (s := s₁) path
    rwa [hg] at hr
  rw [hreg, hesc, ← hc]
  by_cases hnone : s₁.ibcERC20Contracts path = 0
  · rw [getOrCreateIBCERC20_of_eq hnone, Prod.mk.injEq, Prod.mk.injEq] at hg
    obtain ⟨rfl, rfl, rfl⟩ := hg
    exact ⟨by simp, hzero _ (Nat.lt_succ_self _), fun h => absurd hnone h, by simp [hnone]⟩
  · rw [getOrCreateIBCERC20_of_ne hnone, Prod.mk.injEq, Prod.mk.injEq] at hg
    obtain ⟨rfl, rfl, rfl⟩ := hg
    exact ⟨by simp, hnone, fun _ => rfl, by simpa using hnone⟩

/-- **What a call writes to the denom maps.** A call leaves both maps and at most deploys an
escrow; or a receipt, after getting its escrow, registers a voucher for a non-empty path; or
`setCustomERC20` registers a pair that neither map had. -/
theorem step_storage {c : Env × Call} (h : step X H s c = .ok (s', outs)) :
    (s'.ibcERC20Contracts = s.ibcERC20Contracts ∧ s'.ibcERC20Denoms = s.ibcERC20Denoms ∧
      s.deployed ≤ s'.deployed) ∨
    (∃ clientId path, path ≠ [] ∧ s' = (getOrCreateIBCERC20 X (getOrCreateEscrow X s clientId).2 path).2.1) ∨
    (∃ denom token, c.2 = .setCustomERC20 denom token ∧ s.ibcERC20Contracts denom = 0 ∧
      s.ibcERC20Denoms token = [] ∧
      s' = { s with
        ibcERC20Contracts := Function.update s.ibcERC20Contracts denom token
        ibcERC20Denoms := Function.update s.ibcERC20Denoms token denom }) := by
  obtain ⟨env, call⟩ := c
  cases call with
  | sendTransfer msg =>
    rw [sendTransfer_storage h]
    exact .inl (getOrCreateEscrow_maps _)
  | sendTransferWithPermit2 msg permitToken =>
    rw [sendTransferWithPermit2_storage h]
    exact .inl (getOrCreateEscrow_maps _)
  | sendTransferWithSender msg sender =>
    rw [sendTransferWithSender_storage h]
    exact .inl (getOrCreateEscrow_maps _)
  | setCustomERC20 denom token =>
    obtain ⟨-, hc, hd, rfl, -⟩ := setCustomERC20_eq_ok.mp h
    exact .inr (.inr ⟨denom, token, rfl, hc, hd, rfl⟩)
  | onRecvPacket msg =>
    obtain ⟨-, packetData, receiver, escrow, s₁, -, he, hhome, hother⟩ := onRecvPacket_eq_ok h
    cases hp : IBCIdentifiers.hasPrefix H packetData.denom (getDenomPrefix msg.payload.sourcePort msg.sourceClient)
    · -- a voucher for the path under this side's port and client
      obtain ⟨voucher, created, hg, -⟩ := hother hp
      have hpath := List.append_ne_nil_of_left_ne_nil (getDenomPrefix_ne_nil msg.payload.destPort
        msg.destinationClient) packetData.denom
      refine .inr (.inl ⟨msg.destinationClient, _, hpath, ?_⟩)
      rw [he, hg]
    · rw [hhome hp]
      have hmaps := getOrCreateEscrow_maps (X := X) (s := s) msg.destinationClient
      rw [he] at hmaps
      exact .inl hmaps
  | onAcknowledgementPacket msg =>
    rw [onAcknowledgementPacket_storage h]
    exact .inl ⟨rfl, rfl, le_rfl⟩
  | onTimeoutPacket msg =>
    rw [onTimeoutPacket_storage h]
    exact .inl ⟨rfl, rfl, le_rfl⟩
  | pause =>
    rw [setPaused_storage h]
    exact .inl ⟨rfl, rfl, le_rfl⟩
  | unpause =>
    rw [setPaused_storage h]
    exact .inl ⟨rfl, rfl, le_rfl⟩

theorem step_deployed_le {c : Env × Call} (h : step X H s c = .ok (s', outs)) : s.deployed ≤ s'.deployed := by
  rcases step_storage h with ⟨-, -, hdep⟩ | ⟨clientId, path, -, rfl⟩ | ⟨-, -, -, -, -, rfl⟩
  · exact hdep
  · exact le_trans (getOrCreateEscrow_maps clientId).2.2 (getOrCreateIBCERC20_deployed_le path)
  · exact le_rfl

end Calls

/-! ## The invariant over runs -/

/-- A `setCustomERC20` call registers a non-zero token under a non-empty denom, the token none of
the contracts deployed below the nonce `N`; every other call. -/
def Call.RegistersSanely (X : Externals) (N : ℕ) : Call → Prop
  | .setCustomERC20 denom token => denom ≠ [] ∧ token ≠ 0 ∧ ∀ k < N, token ≠ X.create k
  | _ => True

section Inv

-- The contract deploys at distinct, non-zero addresses below the nonce `N`.
variable {X H} {N : ℕ} {s s' : ICS20TransferStorage} {outs : List Output}

theorem init_denomMapsInv (ics26 : Address) : DenomMapsInv X N (ICS20TransferStorage.init ics26) where
  inverse d t := by
    simp only [ICS20TransferStorage.init]
    constructor
    · rintro ⟨rfl, ht⟩
      exact absurd rfl ht
    · rintro ⟨rfl, hd⟩
      exact absurd rfl hd
  fresh _ _ _ := rfl

/-- A step that leaves both maps and deploys nothing it registers keeps the invariant. -/
theorem DenomMapsInv.of_maps (hinv : DenomMapsInv X N s)
    (hc : s'.ibcERC20Contracts = s.ibcERC20Contracts) (hd : s'.ibcERC20Denoms = s.ibcERC20Denoms)
    (hdep : s.deployed ≤ s'.deployed) : DenomMapsInv X N s' where
  inverse := by rw [hc, hd]; exact hinv.inverse
  fresh k hk hkN := by rw [hd]; exact hinv.fresh k (le_trans hdep hk) hkN

/-- Deploying a voucher within the nonces below `N` keeps the invariant: the new contract has no
denom yet, and the path (never empty) no voucher. -/
theorem DenomMapsInv.getOrCreateIBCERC20 (hcreate : Set.InjOn X.create (Set.Iio N))
    (hzero : ∀ k < N, X.create k ≠ 0) (hinv : DenomMapsInv X N s) {p : Bytes} (hp : p ≠ [])
    (hN : (ICS20Transfer.getOrCreateIBCERC20 X s p).2.1.deployed ≤ N) :
    DenomMapsInv X N (ICS20Transfer.getOrCreateIBCERC20 X s p).2.1 := by
  by_cases h : s.ibcERC20Contracts p = 0
  · rw [getOrCreateIBCERC20_of_eq h] at hN ⊢
    simp only at hN
    have hlt : s.deployed < N := by omega
    constructor
    · exact inverse_register hinv.inverse h (hinv.fresh _ le_rfl hlt) (hzero _ hlt) hp
    · intro k hk hkN
      simp only at hk ⊢
      -- a later nonce below `N` gives another address
      have hne : X.create k ≠ X.create s.deployed := fun heq => by
        have := hcreate (Set.mem_Iio.mpr hkN) (Set.mem_Iio.mpr hlt) heq
        omega
      rw [Function.update_of_ne hne]
      exact hinv.fresh k (by omega) hkN
  · rw [getOrCreateIBCERC20_of_ne h]
    exact hinv

/-- **Registering a custom token keeps the invariant**, when the call registers sanely. -/
theorem DenomMapsInv.register (hinv : DenomMapsInv X N s) {denom : Bytes} {token : Address}
    (hc : s.ibcERC20Contracts denom = 0) (hd : s.ibcERC20Denoms token = [])
    (hsane : (Call.setCustomERC20 denom token).RegistersSanely X N) :
    DenomMapsInv X N { s with
      ibcERC20Contracts := Function.update s.ibcERC20Contracts denom token
      ibcERC20Denoms := Function.update s.ibcERC20Denoms token denom } := by
  obtain ⟨hdenom, htoken, hnew⟩ := hsane
  constructor
  · exact inverse_register hinv.inverse hc hd htoken hdenom
  · intro k hk hkN
    simp only at hk ⊢
    rw [Function.update_of_ne (hnew k hkN).symm]
    exact hinv.fresh k hk hkN

/-- **A call keeps the invariant**, when it registers sanely and its deployments stay below
the nonce `N`. -/
theorem step_denomMapsInv (hcreate : Set.InjOn X.create (Set.Iio N)) (hzero : ∀ k < N, X.create k ≠ 0)
    (hinv : DenomMapsInv X N s) {c : Env × Call} (hsane : c.2.RegistersSanely X N)
    (h : step X H s c = .ok (s', outs)) (hN : s'.deployed ≤ N) : DenomMapsInv X N s' := by
  rcases step_storage h with ⟨hc, hd, hdep⟩ | ⟨clientId, path, hpath, rfl⟩ | ⟨denom, token, hcall, hc, hd, rfl⟩
  · exact hinv.of_maps hc hd hdep
  · -- the escrow first, then the voucher
    obtain ⟨hc, hd, hdep⟩ := getOrCreateEscrow_maps (X := X) (s := s) clientId
    exact (hinv.of_maps hc hd hdep).getOrCreateIBCERC20 hcreate hzero hpath hN
  · rw [hcall] at hsane
    exact hinv.register hc hd hsane

/-- **The denom maps stay inverse to each other** over every run from `initialize` whose
`setCustomERC20` calls register sanely, while the contract deploys at distinct non-zero
addresses. -/
theorem reachable_denomMapsInv (hcreate : Set.InjOn X.create (Set.Iio N)) (hzero : ∀ k < N, X.create k ≠ 0)
    {ics26 : Address} {calls : List (Env × Call)} (hsane : ∀ c ∈ calls, c.2.RegistersSanely X N)
    {log : List Output} (hrun : exec (step X H) (ICS20TransferStorage.init ics26, []) calls = (s, log))
    (hN : s.deployed ≤ N) : DenomMapsInv X N s := by
  -- the invariant holds of every state whose deployments are still below `N`; they only grow
  have h := exec_induction_on (step X H) (fun c => c.2.RegistersSanely X N)
    (fun s _ => s.deployed ≤ N → DenomMapsInv X N s)
    (fun _ _ _ _ _ hc hinv hstep hN' =>
      step_denomMapsInv hcreate hzero (hinv (le_trans (step_deployed_le hstep) hN')) hc hstep hN')
    calls (ICS20TransferStorage.init ics26, []) hsane (fun _ => init_denomMapsInv ics26)
  rw [hrun] at h
  exact h hN

end Inv

/-! ## Samples -/

/-- A transfer of 10 `uatom` to the receiver `b`. -/
def samplePacketData : FungibleTokenPacketData := ⟨[0x75, 0x61, 0x74, 0x6f, 0x6d], [0x61], [0x62], 10, []⟩

/-- The `n`th deployment at the address `n + 1`; every packet decodes to `samplePacketData`, and
every receiver parses as the address `7`. -/
def sampleExternals : Externals where
  toHexString _ := []
  tryParseAddress _ := some 7
  decodePacketData _ := some samplePacketData
  create n := BitVec.ofNat 160 (n + 1)

/-- The identity as both hashes, which is injective. -/
def sampleHashes : Hashes := ⟨id, id⟩

/-- The router at address `100` calls, and every call out succeeds. -/
def routerEnv : Env := ⟨100, false, fun _ => true⟩

/-- The access manager lets the caller through. -/
def adminEnv : Env := ⟨1, true, fun _ => true⟩

/-- A receipt over the client `b` of a packet sent over the client `a`. -/
def sampleRecv : OnRecvPacketCallback :=
  ⟨[0x61], [0x62], 1, ⟨defaultPortId, defaultPortId, ics20Version, ics20Encoding, []⟩, 0⟩

/-- A receipt, then a custom token registered under `c`. -/
def sampleCalls : List (Env × Call) := [(routerEnv, .onRecvPacket sampleRecv), (adminEnv, .setCustomERC20 [0x63] 99)]

/-- The storage after `sampleCalls`. -/
def sampleState : ICS20TransferStorage := (exec (step sampleExternals sampleHashes) (ICS20TransferStorage.init 100, []) sampleCalls).1

/-! ## Reachable states -/

section Reachable

variable {X H} {N : ℕ} {s : ICS20TransferStorage}

/-- **The denom maps stay a bijection, and a receipt mints the voucher of its path.** In every
state reached from `initialize` by calls whose `setCustomERC20` registers sanely, while the
contract deploys at distinct non-zero addresses, the maps are inverse to each other; and a
receipt over client `c` of a token not returning home mints, into `c`'s escrow, the voucher
registered for exactly `transfer/c/<denom>`, deploying one only when the path had none. -/
theorem denom_maps_bijection (hcreate : Set.InjOn X.create (Set.Iio N)) (hzero : ∀ k < N, X.create k ≠ 0)
    (hk : Function.Injective H.keccak256) {ics26 : Address} {calls : List (Env × Call)}
    (hsane : ∀ c ∈ calls, c.2.RegistersSanely X N) {log : List Output}
    (hrun : exec (step X H) (ICS20TransferStorage.init ics26, []) calls = (s, log)) (hN : s.deployed ≤ N) :
    (∀ d t, (s.ibcERC20Contracts d = t ∧ t ≠ 0) ↔ (s.ibcERC20Denoms t = d ∧ d ≠ [])) ∧
      ∀ env msg s' outs packetData, onRecvPacket X H env s msg = .ok (s', outs) → s'.deployed ≤ N →
        X.decodePacketData msg.payload.value = some packetData →
        IBCIdentifiers.hasPrefix H packetData.denom (getDenomPrefix defaultPortId msg.sourceClient) = false →
        let path := getDenomPrefix defaultPortId msg.destinationClient ++ packetData.denom
        Output.mint (s'.ibcERC20Contracts path) (s'.escrows msg.destinationClient) packetData.amount ∈ outs ∧
          s'.ibcERC20Denoms (s'.ibcERC20Contracts path) = path ∧
          (s.ibcERC20Contracts path ≠ 0 → s'.ibcERC20Contracts path = s.ibcERC20Contracts path) ∧
          (Output.IBCERC20ContractCreated (s'.ibcERC20Contracts path) path ∈ outs ↔
            s.ibcERC20Contracts path = 0) := by
  have hinv := reachable_denomMapsInv hcreate hzero hsane hrun hN
  refine ⟨hinv.inverse, fun env msg s' outs packetData h hN' hdec hpfx => ?_⟩
  intro path
  -- the receipt is one more call of the run: the state after it keeps the invariant
  have hinv' : DenomMapsInv X N s' :=
    step_denomMapsInv (c := (env, .onRecvPacket msg)) hcreate hzero hinv trivial h hN'
  obtain ⟨hmint, hne, hkeep, hcreated⟩ :=
    onRecvPacket_voucher hk (fun k hk' => hzero k (lt_of_lt_of_le hk' hN')) hdec hpfx h
  have hpath : path ≠ [] := List.append_ne_nil_of_left_ne_nil (getDenomPrefix_ne_nil _ _) _
  exact ⟨hmint, ((hinv'.inverse path _).mp ⟨rfl, hne⟩).1, hkeep, hcreated⟩

/-- Deployments at `n + 1` are at distinct addresses, below the width of an address. -/
theorem ofNat_succ_injOn {N : ℕ} (hN : N < 2 ^ 160) :
    Set.InjOn (fun n => BitVec.ofNat 160 (n + 1)) (Set.Iio N) := by
  intro a ha b hb hab
  have hab' := congrArg BitVec.toNat hab
  simp only [Set.mem_Iio] at ha hb
  simp only [BitVec.toNat_ofNat] at hab'
  rw [Nat.mod_eq_of_lt (by omega), Nat.mod_eq_of_lt (by omega)] at hab'
  omega

theorem denom_maps_bijection_sample :
    (∀ d t, (sampleState.ibcERC20Contracts d = t ∧ t ≠ 0) ↔ (sampleState.ibcERC20Denoms t = d ∧ d ≠ [])) ∧
      ∀ env msg s' outs packetData, onRecvPacket sampleExternals sampleHashes env sampleState msg = .ok (s', outs) →
        s'.deployed ≤ 4 → sampleExternals.decodePacketData msg.payload.value = some packetData →
        IBCIdentifiers.hasPrefix sampleHashes packetData.denom (getDenomPrefix defaultPortId msg.sourceClient) = false →
        let path := getDenomPrefix defaultPortId msg.destinationClient ++ packetData.denom
        Output.mint (s'.ibcERC20Contracts path) (s'.escrows msg.destinationClient) packetData.amount ∈ outs ∧
          s'.ibcERC20Denoms (s'.ibcERC20Contracts path) = path ∧
          (sampleState.ibcERC20Contracts path ≠ 0 → s'.ibcERC20Contracts path = sampleState.ibcERC20Contracts path) ∧
          (Output.IBCERC20ContractCreated (s'.ibcERC20Contracts path) path ∈ outs ↔
            sampleState.ibcERC20Contracts path = 0) := by
  have hinj : Set.InjOn sampleExternals.create (Set.Iio 4) := ofNat_succ_injOn (by decide)
  have hzero : ∀ k < 4, sampleExternals.create k ≠ 0 := by decide
  have hsane : ∀ c ∈ sampleCalls, c.2.RegistersSanely sampleExternals 4 := by
    simp only [sampleCalls, List.mem_cons, List.not_mem_nil, or_false]
    rintro c (rfl | rfl)
    · trivial
    · exact ⟨by decide, by decide, by decide⟩
  have hN : sampleState.deployed ≤ 4 := by decide
  exact denom_maps_bijection hinj hzero Function.injective_id hsane rfl hN

/-- `setCustomERC20` checks neither the denom nor the token: registering a token under the
empty denom leaves the token with a voucher entry and no denom. -/
theorem empty_custom_denom_breaks_bijection :
    let s := (exec (step sampleExternals sampleHashes) (ICS20TransferStorage.init 100, [])
      [(adminEnv, .setCustomERC20 [] 5)]).1
    ¬((s.ibcERC20Contracts [] = 5 ∧ (5 : Address) ≠ 0) ↔ (s.ibcERC20Denoms 5 = [] ∧ ([] : Bytes) ≠ [])) := by
  decide

-- The sample receipt deploys the escrow of `b` at `1` and the voucher of `transfer/b/uatom` at `2`.
example : sampleState.escrows [0x62] = 1 ∧
    sampleState.ibcERC20Denoms 2 = getDenomPrefix defaultPortId [0x62] ++ samplePacketData.denom := by
  decide

end Reachable

end ICS20Transfer
