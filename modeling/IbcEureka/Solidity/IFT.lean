/-
# Interchain fungible tokens on Ethereum

An IFT token (`IFTBaseUpgradeable`) is an ERC20 whose holders can send tokens
to the same token on another chain. `iftTransfer` burns the amount from the
sender and asks the GMP app (`ICS27GMP.sendCall`) for a packet that calls the
counterparty token's mint; the router gives the packet the next sequence of
its client, and the token records the transfer as pending under the client
and that sequence. When the router learns the packet's fate, the GMP app
calls the token back (`IBCSenderCallbacksLib`): a successful acknowledgement
completes the transfer, an error acknowledgement or a timeout refunds it,
minting the amount back to its sender. The counterparty's transfers arrive as
calls of `iftMint` by the GMP account of the counterparty token.

The model is the chain these contracts share (`IFT.State`): the router of
`ICS26Router`, whether the GMP app is paused, and the token's storage, with
the balances and the supply of OpenZeppelin's `ERC20Upgradeable` as a
`Fungible.Token`. A transaction (`IFT.step`) is a router call, after which the
GMP app handles the router's callbacks to it, or a call of the GMP app or of
the token, among them the deployable tokens' `mint` of the owner (`IFTOwnable`) or
the authority (`IFTAccessManaged`) and `ERC20Burnable`'s `burn` and `burnFrom`.
A GMP account's call of `iftMint` is a transaction of its own, with
what the GMP app answers for the caller as an input; a callback to a contract
other than the token leaves the token's storage as it was.

One lemma per entry point says what it does to the token and to the
router's send counters; `Effect` gathers them into the four things a
transaction, or one callback within it, can do: nothing to the transfers, the
start of one under a fresh key, its completion or its refund. The invariant
`Inv` follows from that alone. Over every run, each key (client, sequence)
sees at most one transfer, and the token's record under it follows the
transfer's life (`run_lifecycle`): nothing before, the sender and the amount
while the packet is in flight, nothing after, and the transfer ends once,
completed or refunded in full to its sender. The supply is accounted for
(`run_supply`): what the holders have plus what was burnt is what they started
with plus what was minted, by the bridge or by the owner, and what the
transfers out took is in flight, delivered to the other side or refunded.

Key definitions: `IFT.IFTBaseStorage`, `IFT.iftTransfer`, `IFT.onAckPacket`,
`IFT.onTimeoutPacket`, `IFT.step`, `IFT.transfers`, `IFT.Effect`, `IFT.Inv`.
Key theorems: `IFT.Inv.effect`, `IFT.step_inv`, `IFT.run_lifecycle`, `IFT.run_supply`.
-/
import IbcEureka.Solidity.ICS20Transfer
import IbcEureka.Solidity.RouterLifecycle
import IbcEureka.Lib.Fungible
import IbcEureka.Lib.Pending

namespace IFT

open Txn Fungible ICS26Router
open ICS20Transfer (OnRecvPacketCallback OnAcknowledgementPacketCallback)

/-- `ICS27Lib.DEFAULT_PORT_ID`, `"gmpport"`. -/
def gmpPortId : Bytes := [0x67, 0x6d, 0x70, 0x70, 0x6f, 0x72, 0x74]

/-- `ICS27Lib.ICS27_VERSION`, `"ics27-2"`. -/
def ics27Version : Bytes := [0x69, 0x63, 0x73, 0x32, 0x37, 0x2d, 0x32]

/-- `ICS27Lib.ICS27_ENCODING`, `"application/x-solidity-abi"`. -/
def ics27Encoding : Bytes :=
  [0x61, 0x70, 0x70, 0x6c, 0x69, 0x63, 0x61, 0x74, 0x69, 0x6f, 0x6e, 0x2f, 0x78, 0x2d, 0x73, 0x6f, 0x6c, 0x69,
   0x64, 0x69, 0x74, 0x79, 0x2d, 0x61, 0x62, 0x69]

/-- `DEFAULT_TIMEOUT_DURATION`, 15 minutes. -/
def defaultTimeoutDuration : ℕ := 900

/-- `IICS27GMPMsgs.SendCallMsg`. -/
structure SendCallMsg where
  sourceClient : Bytes
  receiver : Bytes
  salt : Bytes
  payload : Bytes
  timeoutTimestamp : UInt64
  memo : Bytes

/-- `IICS27GMPMsgs.GMPPacketData`. -/
structure GMPPacketData where
  sender : Bytes
  receiver : Bytes
  salt : Bytes
  payload : Bytes
  memo : Bytes

/-- `IICS27GMPMsgs.AccountIdentifier`. -/
structure AccountIdentifier where
  clientId : Bytes
  sender : Bytes
  salt : Bytes

/-- `IIFTMsgs.IFTBridge`. -/
structure IFTBridge where
  clientId : Bytes
  counterpartyIFTAddress : Bytes
  iftSendCallConstructor : Address

/-- `IIFTMsgs.PendingTransfer`. -/
structure PendingTransfer where
  sender : Address
  amount : ℕ

/-- The zero bridge, an absent entry. -/
def IFTBridge.zero : IFTBridge := ⟨[], [], 0⟩

/-- The zero pending transfer, an absent entry: what `delete` writes. -/
def PendingTransfer.zero : PendingTransfer := ⟨0, 0⟩

/-- The transfer an entry records, if any: `getPendingTransfer` finds one where the amount is
positive. -/
def PendingTransfer.record (p : PendingTransfer) : Option (Address × ℕ) :=
  if p.amount = 0 then none else some (p.sender, p.amount)

/-- `IFTBaseStorage`, with the balances and the supply of `ERC20Upgradeable`. -/
structure IFTBaseStorage where
  token : Token Address
  ics27Gmp : Address
  iftBridges : Bytes → IFTBridge
  pendingTransfers : Bytes → UInt64 → PendingTransfer

/-- `$._pendingTransfers[clientId][sequence] = p`. -/
def IFTBaseStorage.setPending (st : IFTBaseStorage) (clientId : Bytes) (sequence : UInt64) (p : PendingTransfer) :
    IFTBaseStorage :=
  { st with
    pendingTransfers :=
      Function.update st.pendingTransfers clientId (Function.update (st.pendingTransfers clientId) sequence p) }

/-- The chain the token, the GMP app and the router share. -/
structure State where
  router : ICS26Router.State
  gmpPaused : Bool
  ift : IFTBaseStorage

/-- A fresh router and GMP app, and a token with holders `token` and no bridge. -/
def State.init (token : Token Address) (gmp : Address) : State :=
  ⟨ICS26Router.State.init, false, ⟨token, gmp, fun _ => .zero, fun _ _ => .zero⟩⟩

/-- The errors of a transaction of the token, of the GMP app, or of the router they call. -/
inductive Error
  | IFTEmptyClientId
  | IFTEmptyReceiver
  | IFTZeroAmount
  | IFTTimeoutInPast (timeoutTimestamp now : UInt64)
  | IFTBridgeNotFound (clientId : Bytes)
  | IFTEmptyCounterpartyAddress
  | IFTZeroAddressConstructor
  | IFTInvalidConstructorInterface (iftSendCallConstructor : Address)
  | IFTUnauthorizedMint (expected actual : Bytes)
  | IFTUnexpectedSalt (salt : Bytes)
  | IFTPendingTransferNotFound (clientId : Bytes) (sequence : UInt64)
  | IFTOnlyICS27GMP (caller : Address)
  /-- `_onlyAuthority`, the `onlyOwner` or `restricted` of the token's `mint`, or the GMP app's
  `restricted`, refused the caller. -/
  | Unauthorized
  | ERC20InvalidSender (sender : Address)
  | ERC20InvalidReceiver (receiver : Address)
  | ERC20InsufficientBalance (sender : Address) (balance needed : ℕ)
  | ERC20InsufficientAllowance (spender : Address) (allowance needed : ℕ)
  /-- `Panic(0x11)`: checked arithmetic overflowed. -/
  | ArithmeticOverflow
  | ICS27PayloadEmpty
  | ICS27AccountNotFound (account : Address)
  | ICS27InvalidSender (sender : Bytes)
  /-- `abi.decode` of the packet data reverted. -/
  | AbiDecodeFailed
  | EnforcedPause
  | ExpectedPause
  | router (e : Revert)

/-- The events of a transaction, the router's among them. -/
inductive Event
  | router (e : ICS26Router.Event)
  | Transfer (src dst : Address) (value : ℕ)
  | IFTBridgeRegistered (clientId counterpartyIFTAddress : Bytes) (iftSendCallConstructor : Address)
  | IFTBridgeRemoved (clientId : Bytes)
  | IFTTransferInitiated (clientId : Bytes) (sequence : UInt64) (sender : Address) (receiver : Bytes) (amount : ℕ)
  | IFTMintReceived (clientId : Bytes) (receiver : Address) (amount : ℕ)
  | IFTTransferCompleted (clientId : Bytes) (sequence : UInt64) (sender : Address) (amount : ℕ)
  | IFTTransferRefunded (clientId : Bytes) (sequence : UInt64) (sender : Address) (amount : ℕ)
  | Paused (account : Address)
  | Unpaused (account : Address)

/-- What the contracts take from outside the repository: the token's own address, OpenZeppelin's
`Strings.toChecksumHexString` and `Strings.tryParseAddress`, `abi.encode` and `abi.decode` of the
GMP packet data (`none` where it reverts), and what a bridge's `iftSendCallConstructor` answers
to `constructMintCall(receiver, amount)`. -/
structure Externals where
  self : Address
  toChecksumHexString : Address → Bytes
  tryParseAddress : Bytes → Option Address
  encodePacketData : GMPPacketData → Bytes
  decodePacketData : Bytes → Option GMPPacketData
  constructMintCall : Address → Bytes → ℕ → Bytes

/-! ## `ERC20Upgradeable` -/

/-- `_burn(account, value)`. -/
def burn (t : Token Address) (account : Address) (value : ℕ) : Except Error (Token Address) := do
  require (account ≠ 0) (.ERC20InvalidSender 0)
  expect (t.burn account value) (.ERC20InsufficientBalance account (t.balanceOf account) value)

/-- `_mint(account, value)`: the supply is a `uint256`, and its addition is checked. -/
def mint (t : Token Address) (account : Address) (value : ℕ) : Except Error (Token Address) := do
  require (account ≠ 0) (.ERC20InvalidReceiver 0)
  require (t.totalSupply + value < 2 ^ 256) .ArithmeticOverflow
  pure (t.mint account value)

/-- `_transfer(src, dst, value)`, behind `transfer(dst, value)`. -/
def transfer (t : Token Address) (src dst : Address) (value : ℕ) : Except Error (Token Address) := do
  require (src ≠ 0) (.ERC20InvalidSender 0)
  require (dst ≠ 0) (.ERC20InvalidReceiver 0)
  expect (t.transfer src dst value) (.ERC20InsufficientBalance src (t.balanceOf src) value)

/-! ## The token's own entry points -/

/-- `registerIFTBridge(clientId, counterpartyIFTAddress, iftSendCallConstructor)`; `supportsInterface` is
what `ERC165Checker.supportsInterface` answers for the constructor. -/
def registerIFTBridge (st : IFTBaseStorage) (env : Env) (clientId counterpartyIFTAddress : Bytes)
    (iftSendCallConstructor : Address) (supportsInterface : Bool) : Except Error (IFTBaseStorage × List Event) := do
  require env.authorized .Unauthorized
  require (clientId.length ≠ 0) .IFTEmptyClientId
  require (counterpartyIFTAddress.length ≠ 0) .IFTEmptyCounterpartyAddress
  require (iftSendCallConstructor ≠ 0) .IFTZeroAddressConstructor
  require (supportsInterface = true) (.IFTInvalidConstructorInterface iftSendCallConstructor)
  pure ({ st with
      iftBridges := Function.update st.iftBridges clientId ⟨clientId, counterpartyIFTAddress, iftSendCallConstructor⟩ },
    [.IFTBridgeRegistered clientId counterpartyIFTAddress iftSendCallConstructor])

/-- `removeIFTBridge(clientId)`. -/
def removeIFTBridge (st : IFTBaseStorage) (env : Env) (clientId : Bytes) :
    Except Error (IFTBaseStorage × List Event) := do
  require env.authorized .Unauthorized
  require ((st.iftBridges clientId).clientId.length ≠ 0) (.IFTBridgeNotFound clientId)
  pure ({ st with iftBridges := Function.update st.iftBridges clientId .zero }, [.IFTBridgeRemoved clientId])

/-- `_refundPendingTransfer(clientId, sequence)`: the amount goes back to the sender, and the entry. -/
def refundPendingTransfer (st : IFTBaseStorage) (clientId : Bytes) (sequence : UInt64) :
    Except Error (IFTBaseStorage × List Event) := do
  let pending := st.pendingTransfers clientId sequence
  require (0 < pending.amount) (.IFTPendingTransferNotFound clientId sequence)
  let token ← mint st.token pending.sender pending.amount
  pure (({ st with token := token }).setPending clientId sequence .zero,
    [.Transfer 0 pending.sender pending.amount,
      .IFTTransferRefunded clientId sequence pending.sender pending.amount])

/-- `onAckPacket(success, msg)`, by `caller`: a failure refunds; a success deletes the entry. -/
def onAckPacket (st : IFTBaseStorage) (caller : Address) (success : Bool) (msg : OnAcknowledgementPacketCallback) :
    Except Error (IFTBaseStorage × List Event) := do
  require (caller = st.ics27Gmp) (.IFTOnlyICS27GMP caller)
  if !success then refundPendingTransfer st msg.sourceClient msg.sequence
  else
    let pending := st.pendingTransfers msg.sourceClient msg.sequence
    require (0 < pending.amount) (.IFTPendingTransferNotFound msg.sourceClient msg.sequence)
    pure (st.setPending msg.sourceClient msg.sequence .zero,
      [.IFTTransferCompleted msg.sourceClient msg.sequence pending.sender pending.amount])

/-- `onTimeoutPacket(msg)`, by `caller`: a refund. -/
def onTimeoutPacket (st : IFTBaseStorage) (caller : Address) (msg : OnRecvPacketCallback) :
    Except Error (IFTBaseStorage × List Event) := do
  require (caller = st.ics27Gmp) (.IFTOnlyICS27GMP caller)
  refundPendingTransfer st msg.sourceClient msg.sequence

variable (X : Externals) (S : OzStrings) (H : Hashes)

/-! ## The GMP app and the token together -/

/-- `ICS27GMP.sendCall(msg)` by `caller`: the router sends the call's packet on the GMP port, and
the sequence it hands out is returned. -/
def sendCall (s : State) (env : Env) (caller : Address) (msg : SendCallMsg) :
    Except Error (ICS26Router.State × List ICS26Router.Event × UInt64) := do
  require (s.gmpPaused = false) .EnforcedPause
  require (msg.payload.length ≠ 0) .ICS27PayloadEmpty
  let packetData : GMPPacketData := ⟨X.toChecksumHexString caller, msg.receiver, msg.salt, msg.payload, msg.memo⟩
  let (router, evs) ← (sendPacket H s.router ⟨s.ift.ics27Gmp, env.authorized, env.timestamp⟩
    ⟨msg.sourceClient, msg.timeoutTimestamp,
      ⟨gmpPortId, gmpPortId, ics27Version, ics27Encoding, X.encodePacketData packetData⟩⟩).mapError .router
  -- `sendPacket` returns the sequence it took, which the client's counter now holds
  pure (router, evs, router.store.prevSequenceSends msg.sourceClient)

/-- `_iftTransfer(msg.sender, clientId, receiver, amount, timeoutTimestamp)`. -/
def iftTransfer (s : State) (env : Env) (clientId receiver : Bytes) (amount : ℕ) (timeoutTimestamp : UInt64) :
    Except Error (State × List Event) := do
  require (clientId.length ≠ 0) .IFTEmptyClientId
  require (receiver.length ≠ 0) .IFTEmptyReceiver
  require (0 < amount) .IFTZeroAmount
  require (timeoutTimestamp.toNat > env.timestamp) (.IFTTimeoutInPast timeoutTimestamp (UInt64.ofNat env.timestamp))
  let token ← burn s.ift.token env.sender amount
  let bridge := s.ift.iftBridges clientId
  require (H.keccak256 bridge.clientId = H.keccak256 clientId) (.IFTBridgeNotFound clientId)
  let payload := X.constructMintCall bridge.iftSendCallConstructor receiver amount
  let (router, routerEvents, sequence) ← sendCall X H { s with ift := { s.ift with token := token } } env X.self
    ⟨bridge.clientId, bridge.counterpartyIFTAddress, [], payload, timeoutTimestamp, []⟩
  pure (⟨router, s.gmpPaused, ({ s.ift with token := token }).setPending bridge.clientId sequence ⟨env.sender, amount⟩⟩,
    [.Transfer env.sender 0 amount] ++ routerEvents.map .router ++
      [.IFTTransferInitiated bridge.clientId sequence env.sender receiver amount])

/-- `iftTransfer(clientId, receiver, amount)`: the timeout is 15 minutes from now, a checked `uint64`
addition. -/
def iftTransferDefaultTimeout (s : State) (env : Env) (clientId receiver : Bytes) (amount : ℕ) :
    Except Error (State × List Event) := do
  require ((UInt64.ofNat env.timestamp).toNat + defaultTimeoutDuration < 2 ^ 64) .ArithmeticOverflow
  iftTransfer X H s env clientId receiver amount (UInt64.ofNat env.timestamp + UInt64.ofNat defaultTimeoutDuration)

/-- `iftMint(receiver, amount)`, by a GMP account; `accountId` is what `getAccountIdentifier` answers
for the caller, `none` where it reverts. -/
def iftMint (s : State) (env : Env) (receiver : Address) (amount : ℕ) (accountId : Option AccountIdentifier) :
    Except Error (State × List Event) := do
  let accountId ← expect accountId (.ICS27AccountNotFound env.sender)
  let bridge := s.ift.iftBridges accountId.clientId
  require (bridge.clientId.length ≠ 0) (.IFTBridgeNotFound accountId.clientId)
  require (H.keccak256 bridge.clientId = H.keccak256 accountId.clientId) (.IFTBridgeNotFound accountId.clientId)
  require (H.keccak256 bridge.counterpartyIFTAddress = H.keccak256 accountId.sender)
    (.IFTUnauthorizedMint bridge.counterpartyIFTAddress accountId.sender)
  require (accountId.salt.length = 0) (.IFTUnexpectedSalt accountId.salt)
  let token ← mint s.ift.token receiver amount
  pure ({ s with ift := { s.ift with token := token } },
    [.Transfer 0 receiver amount, .IFTMintReceived accountId.clientId receiver amount])

/-- `ICS27GMP.onAcknowledgementPacket(msg)`: the packet's sender is called back, with success
unless the acknowledgement is the universal error one; a sender other than the token takes its
callback without touching the token. -/
def gmpOnAcknowledgementPacket (s : State) (msg : OnAcknowledgementPacketCallback) :
    Except Error (IFTBaseStorage × List Event) := do
  require (s.gmpPaused = false) .EnforcedPause
  let packetData ← expect (X.decodePacketData msg.payload.value) .AbiDecodeFailed
  let sender ← expect (X.tryParseAddress packetData.sender) (.ICS27InvalidSender packetData.sender)
  if sender = X.self then
    onAckPacket s.ift s.ift.ics27Gmp (decide (H.keccak256 msg.acknowledgement ≠ H.keccak256 universalErrorAck)) msg
  else pure (s.ift, [])

/-- `ICS27GMP.onTimeoutPacket(msg)`: the packet's sender is called back. -/
def gmpOnTimeoutPacket (s : State) (msg : OnRecvPacketCallback) : Except Error (IFTBaseStorage × List Event) := do
  require (s.gmpPaused = false) .EnforcedPause
  let packetData ← expect (X.decodePacketData msg.payload.value) .AbiDecodeFailed
  let sender ← expect (X.tryParseAddress packetData.sender) (.ICS27InvalidSender packetData.sender)
  if sender = X.self then onTimeoutPacket s.ift s.ift.ics27Gmp msg
  else pure (s.ift, [])

/-- The GMP app's part in one callback of the router, made by `relayer`'s transaction: the
acknowledgement or the timeout of a packet on a port the app holds. Its `onRecvPacket` reaches the
token only through a GMP account's call of `iftMint`, a transaction of its own here. -/
def gmpCallback (s : State) (relayer : Address) : ICS26Router.Event → Except Error (IFTBaseStorage × List Event)
  | .onAcknowledgementPacket app packet acknowledgement =>
    if app = s.ift.ics27Gmp then do
      let payload ← (singlePayload packet).mapError .router
      gmpOnAcknowledgementPacket X H s
        ⟨packet.sourceClient, packet.destClient, packet.sequence, payload, acknowledgement, relayer⟩
    else pure (s.ift, [])
  | .onTimeoutPacket app packet =>
    if app = s.ift.ics27Gmp then do
      let payload ← (singlePayload packet).mapError .router
      gmpOnTimeoutPacket X s ⟨packet.sourceClient, packet.destClient, packet.sequence, payload, relayer⟩
    else pure (s.ift, [])
  | _ => pure (s.ift, [])

/-- The GMP app's part in the callbacks of a router transaction, in order. -/
def gmpCallbacks (s : State) (relayer : Address) : List ICS26Router.Event → Except Error (IFTBaseStorage × List Event)
  | [] => pure (s.ift, [])
  | e :: es => do
    let (ift, evs) ← gmpCallback X H s relayer e
    let (ift', evs') ← gmpCallbacks { s with ift := ift } relayer es
    pure (ift', evs ++ evs')

/-- A transaction into the router, with the GMP app's callbacks. -/
def routerCall (s : State) (env : Env) (c : ICS26Router.Call) : Except Error (State × List Event) := do
  let (router, evs) ← (ICS26Router.step S H s.router (env, c)).mapError .router
  let (ift, iftEvents) ← gmpCallbacks X H { s with router := router } env.sender evs
  pure (⟨router, s.gmpPaused, ift⟩, evs.map .router ++ iftEvents)

/-- The entry points, each with what the contracts it calls answer. -/
inductive Call
  | router (c : ICS26Router.Call)
  /-- Any contract's `ICS27GMP.sendCall`. -/
  | sendCall (msg : SendCallMsg)
  | gmpPause
  | gmpUnpause
  | iftTransfer (clientId receiver : Bytes) (amount : ℕ) (timeoutTimestamp : UInt64)
  | iftTransferDefaultTimeout (clientId receiver : Bytes) (amount : ℕ)
  | iftMint (receiver : Address) (amount : ℕ) (accountId : Option AccountIdentifier)
  | registerIFTBridge (clientId counterpartyIFTAddress : Bytes) (iftSendCallConstructor : Address)
      (supportsInterface : Bool)
  | removeIFTBridge (clientId : Bytes)
  | transfer (dst : Address) (value : ℕ)
  /-- `mint(mintAddress, amount)` of the deployable tokens: `onlyOwner` in `IFTOwnable`, `restricted`
  in `IFTAccessManaged`. -/
  | mint (mintAddress : Address) (amount : ℕ)
  /-- `ERC20BurnableUpgradeable.burn(value)`. -/
  | burn (value : ℕ)
  /-- `ERC20BurnableUpgradeable.burnFrom(account, value)`, with the caller's allowance from `account`. -/
  | burnFrom (account : Address) (value : ℕ) (allowance : ℕ)

/-- One transaction. -/
def step (s : State) : Env × Call → Except Error (State × List Event)
  | (env, .router c) => routerCall X S H s env c
  | (env, .sendCall msg) => do
    let (router, evs, _) ← sendCall X H s env env.sender msg
    pure ({ s with router := router }, evs.map .router)
  | (env, .gmpPause) => do
    require env.authorized .Unauthorized
    require (s.gmpPaused = false) .EnforcedPause
    pure ({ s with gmpPaused := true }, [.Paused env.sender])
  | (env, .gmpUnpause) => do
    require env.authorized .Unauthorized
    require (s.gmpPaused = true) .ExpectedPause
    pure ({ s with gmpPaused := false }, [.Unpaused env.sender])
  | (env, .iftTransfer clientId receiver amount timeoutTimestamp) =>
    iftTransfer X H s env clientId receiver amount timeoutTimestamp
  | (env, .iftTransferDefaultTimeout clientId receiver amount) =>
    iftTransferDefaultTimeout X H s env clientId receiver amount
  | (env, .iftMint receiver amount accountId) => iftMint H s env receiver amount accountId
  | (env, .registerIFTBridge clientId counterpartyIFTAddress iftSendCallConstructor supportsInterface) => do
    let (ift, evs) ← registerIFTBridge s.ift env clientId counterpartyIFTAddress iftSendCallConstructor
      supportsInterface
    pure ({ s with ift := ift }, evs)
  | (env, .removeIFTBridge clientId) => do
    let (ift, evs) ← removeIFTBridge s.ift env clientId
    pure ({ s with ift := ift }, evs)
  | (env, .transfer dst value) => do
    let token ← transfer s.ift.token env.sender dst value
    pure ({ s with ift := { s.ift with token := token } }, [.Transfer env.sender dst value])
  | (env, .mint mintAddress amount) => do
    require env.authorized .Unauthorized
    let token ← mint s.ift.token mintAddress amount
    pure ({ s with ift := { s.ift with token := token } }, [.Transfer 0 mintAddress amount])
  | (env, .burn value) => do
    let token ← burn s.ift.token env.sender value
    pure ({ s with ift := { s.ift with token := token } }, [.Transfer env.sender 0 value])
  | (env, .burnFrom account value allowance) => do
    -- `_spendAllowance(account, msg.sender, value)`, then `_burn(account, value)`
    require (value ≤ allowance) (.ERC20InsufficientAllowance env.sender allowance value)
    let token ← burn s.ift.token account value
    pure ({ s with ift := { s.ift with token := token } }, [.Transfer account 0 value])

/-! ## What the log records of transfers and mints -/

/-- The step of the transfer under `(clientId, sequence)` an event is, if any. -/
def Event.stepAt (clientId : Bytes) (sequence : UInt64) : Event → Option (Pending.Step Address)
  | .IFTTransferInitiated c q u _ a => if clientId = c ∧ sequence = q then some (.initiated u a) else none
  | .IFTTransferCompleted c q u a => if clientId = c ∧ sequence = q then some (.completed u a) else none
  | .IFTTransferRefunded c q u a => if clientId = c ∧ sequence = q then some (.refunded u a) else none
  | _ => none

/-- The steps of the transfer under `(clientId, sequence)` in a log. -/
def transfers (clientId : Bytes) (sequence : UInt64) (log : List Event) : List (Pending.Step Address) :=
  log.filterMap (Event.stepAt clientId sequence)

/-- The amount an event mints: ERC20's `Transfer` from the zero address. -/
def Event.minted : Event → ℕ
  | .Transfer src _ a => if src = 0 then a else 0
  | _ => 0

/-- The amount an event burns: ERC20's `Transfer` to the zero address. -/
def Event.burnt : Event → ℕ
  | .Transfer _ dst a => if dst = 0 then a else 0
  | _ => 0

theorem Event.minted_transfer_zero (dst : Address) (a : ℕ) : (Event.Transfer 0 dst a).minted = a := by
  simp [Event.minted]

theorem Event.minted_transfer_of_ne {src dst : Address} {a : ℕ} (h : src ≠ 0) :
    (Event.Transfer src dst a).minted = 0 := if_neg h

theorem Event.burnt_transfer_zero (src : Address) (a : ℕ) : (Event.Transfer src 0 a).burnt = a := by
  simp [Event.burnt]

theorem Event.burnt_transfer_of_ne {src dst : Address} {a : ℕ} (h : dst ≠ 0) :
    (Event.Transfer src dst a).burnt = 0 := if_neg h

/-- The amount a transfer to the other side starts with. -/
def Event.initiated : Event → ℕ
  | .IFTTransferInitiated _ _ _ _ a => a
  | _ => 0

/-- The amount an event sees delivered to the other side. -/
def Event.delivered : Event → ℕ
  | .IFTTransferCompleted _ _ _ a => a
  | _ => 0

/-- The amount an event refunds to a transfer's sender. -/
def Event.refunded : Event → ℕ
  | .IFTTransferRefunded _ _ _ a => a
  | _ => 0

/-- The sum of an amount over the events of a log. -/
def total (f : Event → ℕ) (log : List Event) : ℕ := (log.map f).sum

@[simp] theorem transfers_nil (c : Bytes) (q : UInt64) : transfers c q [] = [] := rfl

@[simp] theorem transfers_cons (c : Bytes) (q : UInt64) (e : Event) (log : List Event) :
    transfers c q (e :: log) = (e.stepAt c q).toList ++ transfers c q log := by
  cases h : e.stepAt c q <;> simp [transfers, h]

@[simp] theorem transfers_append (c : Bytes) (q : UInt64) (log log' : List Event) :
    transfers c q (log ++ log') = transfers c q log ++ transfers c q log' := by
  simp [transfers, List.filterMap_append]

@[simp] theorem total_nil (f : Event → ℕ) : total f [] = 0 := rfl

@[simp] theorem total_cons (f : Event → ℕ) (e : Event) (log : List Event) : total f (e :: log) = f e + total f log := by
  simp [total]

@[simp] theorem total_append (f : Event → ℕ) (log log' : List Event) :
    total f (log ++ log') = total f log + total f log' := by
  simp [total]

theorem total_eq_zero {f : Event → ℕ} {log : List Event} (h : ∀ e ∈ log, f e = 0) : total f log = 0 :=
  List.sum_eq_zero fun _ hx => by
    obtain ⟨e, he, rfl⟩ := List.mem_map.mp hx
    exact h e he

@[simp] theorem transfers_map_router (c : Bytes) (q : UInt64) (evs : List ICS26Router.Event) :
    transfers c q (evs.map .router) = [] := by
  simp [transfers, List.filterMap_map, Function.comp_def, Event.stepAt]

theorem total_map_router (f : Event → ℕ) (hf : ∀ r, f (.router r) = 0) (evs : List ICS26Router.Event) :
    total f (evs.map .router) = 0 :=
  total_eq_zero fun e he => by
    obtain ⟨r, -, rfl⟩ := List.mem_map.mp he
    exact hf r

theorem Event.amounts_of_stepless {e : Event} (h : ∀ c q, e.stepAt c q = none) :
    e.initiated = 0 ∧ e.delivered = 0 ∧ e.refunded = 0 := by
  cases e <;> simp_all [Event.stepAt, Event.initiated, Event.delivered, Event.refunded]

theorem totals_of_stepless {evs : List Event} (ht : ∀ c q, transfers c q evs = []) :
    total Event.initiated evs = 0 ∧ total Event.delivered evs = 0 ∧ total Event.refunded evs = 0 := by
  have hnone : ∀ e ∈ evs, ∀ c q, e.stepAt c q = none := fun e he c q =>
    List.filterMap_eq_nil_iff.mp (ht c q) e he
  exact ⟨total_eq_zero fun e he => (Event.amounts_of_stepless (hnone e he)).1,
    total_eq_zero fun e he => (Event.amounts_of_stepless (hnone e he)).2.1,
    total_eq_zero fun e he => (Event.amounts_of_stepless (hnone e he)).2.2⟩

/-! ## The token's records -/

/-- The amounts of the pending transfers, by key. -/
def IFTBaseStorage.pendingAmount (st : IFTBaseStorage) (k : Bytes × UInt64) : ℕ :=
  (st.pendingTransfers k.1 k.2).amount

/-- The send counter of a client. -/
def State.counter (s : State) (clientId : Bytes) : ℕ := (s.router.store.prevSequenceSends clientId).toNat

@[simp] theorem IFTBaseStorage.setPending_apply (st : IFTBaseStorage) (c : Bytes) (q : UInt64) (p : PendingTransfer)
    (c' : Bytes) (q' : UInt64) :
    (st.setPending c q p).pendingTransfers c' q' = if c' = c ∧ q' = q then p else st.pendingTransfers c' q' := by
  simp only [setPending, Function.update_apply]
  by_cases hc : c' = c
  · subst hc
    by_cases hq : q' = q <;> simp [hq]
  · simp [hc]

@[simp] theorem IFTBaseStorage.setPending_token (st : IFTBaseStorage) (c : Bytes) (q : UInt64) (p : PendingTransfer) :
    (st.setPending c q p).token = st.token := rfl

@[simp] theorem IFTBaseStorage.setPending_ics27Gmp (st : IFTBaseStorage) (c : Bytes) (q : UInt64)
    (p : PendingTransfer) : (st.setPending c q p).ics27Gmp = st.ics27Gmp := rfl

theorem IFTBaseStorage.pendingAmount_setPending (st : IFTBaseStorage) (c : Bytes) (q : UInt64) (p : PendingTransfer) :
    (st.setPending c q p).pendingAmount = Function.update st.pendingAmount (c, q) p.amount := by
  funext k
  obtain ⟨c', q'⟩ := k
  simp only [pendingAmount, setPending_apply, Function.update_apply, Prod.mk.injEq]
  split_ifs <;> rfl

theorem PendingTransfer.record_of_pos {u : Address} {a : ℕ} (ha : 0 < a) :
    (⟨u, a⟩ : PendingTransfer).record = some (u, a) := by
  simp [record, Nat.pos_iff_ne_zero.mp ha]

@[simp] theorem PendingTransfer.record_zero : PendingTransfer.zero.record = none := rfl

theorem PendingTransfer.amount_eq_zero {p : PendingTransfer} (h : p.record = none) : p.amount = 0 := by
  unfold record at h
  split at h
  · assumption
  · cases h

/-! ## What each entry point does -/

section Specs

variable {X S H} {s s' : State} {env : Env} {evs : List Event} {t t' : Token Address} {a b : Address} {v : ℕ}

theorem burn_eq_ok (h : burn t a v = .ok t') : t'.totalSupply + v = t.totalSupply := by
  simp only [burn, require_bind_eq_ok, expect_eq_ok] at h
  exact (Token.burn_eq_some.mp h.2).2.1

theorem mint_eq_ok (h : mint t a v = .ok t') : t'.totalSupply = t.totalSupply + v := by
  simp only [mint, require_bind_eq_ok, pure_eq_ok] at h
  rw [← h.2.2, Token.mint_totalSupply]

theorem transfer_eq_ok (h : transfer t a b v = .ok t') : a ≠ 0 ∧ b ≠ 0 ∧ t'.totalSupply = t.totalSupply := by
  simp only [transfer, require_bind_eq_ok, expect_eq_ok] at h
  exact ⟨h.1, h.2.1, (Token.transfer_eq_some.mp h.2.2).2.1⟩

theorem burn_ne_zero (h : burn t a v = .ok t') : a ≠ 0 := by
  simp only [burn, require_bind_eq_ok] at h
  exact h.1

theorem mint_ne_zero (h : mint t a v = .ok t') : a ≠ 0 := by
  simp only [mint, require_bind_eq_ok] at h
  exact h.1

theorem routerStep_counter {r r' : ICS26Router.State} {e : Env × ICS26Router.Call} {revs : List ICS26Router.Event}
    (h : ICS26Router.step S H r e = .ok (r', revs)) (c : Bytes) :
    (r.store.prevSequenceSends c).toNat ≤ (r'.store.prevSequenceSends c).toNat :=
  effect_prevSequenceSends (step_effect h) c

theorem sendCall_eq_ok {caller : Address} {msg : SendCallMsg} {r : ICS26Router.State}
    {revs : List ICS26Router.Event} {sequence : UInt64} (h : sendCall X H s env caller msg = .ok (r, revs, sequence)) :
    (∀ c, s.counter c ≤ (r.store.prevSequenceSends c).toNat) ∧
      s.counter msg.sourceClient < sequence.toNat ∧ sequence = r.store.prevSequenceSends msg.sourceClient := by
  simp only [sendCall, require_bind_eq_ok] at h
  simp only [bind_eq_ok, mapError_eq_ok, pure_eq_ok, Prod.mk.injEq] at h
  obtain ⟨-, -, ⟨r₁, revs₁⟩, hsend, rfl, rfl, rfl⟩ := h
  obtain ⟨P, hsrc, hlt, hseq, hzero, hstore, -⟩ := sendPacket_ok hsend
  dsimp only at hsrc
  refine ⟨fun c => effect_prevSequenceSends (.send P hlt hseq hzero hstore) c, ?_, rfl⟩
  -- the new counter is the old one plus one, which does not overflow
  rw [hstore, IBCStore.IBCStoreStorage.setCommitment_prevSequenceSends, ← hsrc]
  dsimp only
  rw [Function.update_self, hseq, UInt64.toNat_add, UInt64.toNat_one, Nat.mod_eq_of_lt hlt]
  unfold State.counter
  omega

end Specs

/-! ## The four effects -/

/-- What a successful transaction, or one callback within one, does to the token's transfers, with
the events it logs: nothing to them; the start of one under a key whose sequence the router just
handed out; the completion of one in flight; its refund. Each changes the supply by what its events
mint and burn. -/
inductive Effect (s s' : State) (evs : List Event) : Prop
  | quiet :
      s'.ift.pendingTransfers = s.ift.pendingTransfers →
      s'.ift.token.totalSupply + total Event.burnt evs = s.ift.token.totalSupply + total Event.minted evs →
      (∀ c q, transfers c q evs = []) → Effect s s' evs
  | start (c : Bytes) (q : UInt64) (u : Address) (a : ℕ) :
      s.counter c < q.toNat → q.toNat ≤ s'.counter c → 0 < a →
      s'.ift.pendingTransfers = (s.ift.setPending c q ⟨u, a⟩).pendingTransfers →
      s'.ift.token.totalSupply + total Event.burnt evs = s.ift.token.totalSupply + total Event.minted evs →
      (∀ c' q', transfers c' q' evs = if c' = c ∧ q' = q then [.initiated u a] else []) →
      total Event.initiated evs = a → total Event.delivered evs = 0 → total Event.refunded evs = 0 → Effect s s' evs
  | complete (c : Bytes) (q : UInt64) (u : Address) (a : ℕ) :
      (s.ift.pendingTransfers c q).record = some (u, a) →
      s'.ift.pendingTransfers = (s.ift.setPending c q .zero).pendingTransfers →
      s'.ift.token.totalSupply + total Event.burnt evs = s.ift.token.totalSupply + total Event.minted evs →
      (∀ c' q', transfers c' q' evs = if c' = c ∧ q' = q then [.completed u a] else []) →
      total Event.initiated evs = 0 → total Event.delivered evs = a → total Event.refunded evs = 0 → Effect s s' evs
  | refund (c : Bytes) (q : UInt64) (u : Address) (a : ℕ) :
      (s.ift.pendingTransfers c q).record = some (u, a) →
      s'.ift.pendingTransfers = (s.ift.setPending c q .zero).pendingTransfers →
      s'.ift.token.totalSupply + total Event.burnt evs = s.ift.token.totalSupply + total Event.minted evs →
      (∀ c' q', transfers c' q' evs = if c' = c ∧ q' = q then [.refunded u a] else []) →
      total Event.initiated evs = 0 → total Event.delivered evs = 0 → total Event.refunded evs = a → Effect s s' evs

section Effects

variable {X S H} {s s' : State} {env : Env} {evs : List Event} {st' : IFTBaseStorage}

theorem Effect.rfl' : Effect s { s with ift := s.ift } [] :=
  .quiet rfl rfl fun _ _ => rfl

theorem refundPendingTransfer_effect {c : Bytes} {q : UInt64}
    (h : refundPendingTransfer s.ift c q = .ok (st', evs)) : Effect s { s with ift := st' } evs := by
  simp only [refundPendingTransfer, require_bind_eq_ok] at h
  simp only [bind_eq_ok, pure_eq_ok, Prod.mk.injEq] at h
  obtain ⟨hpos, token, hmint, rfl, rfl⟩ := h
  refine .refund c q _ _ (PendingTransfer.record_of_pos hpos) rfl ?_ (fun c' q' => ?_) rfl rfl
    (by simp [Event.refunded])
  · -- the refund mints the amount back, to a sender that is not the zero address
    simp only [total_cons, total_nil, Event.minted_transfer_zero, Event.burnt_transfer_of_ne (mint_ne_zero hmint)]
    simp only [IFTBaseStorage.setPending_token, mint_eq_ok hmint, Event.minted, Event.burnt]
    omega
  · by_cases hk : c' = c ∧ q' = q <;> simp [Event.stepAt, hk]

theorem onAckPacket_effect {caller : Address} {success : Bool} {msg : OnAcknowledgementPacketCallback}
    (h : onAckPacket s.ift caller success msg = .ok (st', evs)) : Effect s { s with ift := st' } evs := by
  simp only [onAckPacket, require_bind_eq_ok] at h
  obtain ⟨-, h⟩ := h
  cases success
  · -- a failure refunds
    exact refundPendingTransfer_effect h
  · simp only [Bool.not_true, Bool.false_eq_true, if_false, require_bind_eq_ok, pure_eq_ok, Prod.mk.injEq] at h
    obtain ⟨hpos, rfl, rfl⟩ := h
    refine .complete _ _ _ _ (PendingTransfer.record_of_pos hpos) rfl rfl (fun c' q' => ?_) rfl
      (by simp [Event.delivered]) rfl
    by_cases hk : c' = msg.sourceClient ∧ q' = msg.sequence <;> simp [Event.stepAt, hk]

theorem onTimeoutPacket_effect {caller : Address} {msg : OnRecvPacketCallback}
    (h : onTimeoutPacket s.ift caller msg = .ok (st', evs)) : Effect s { s with ift := st' } evs := by
  simp only [onTimeoutPacket, require_bind_eq_ok] at h
  exact refundPendingTransfer_effect h.2

/-- **One callback of the router, through the GMP app.** -/
theorem gmpCallback_effect {relayer : Address} {e : ICS26Router.Event}
    (h : gmpCallback X H s relayer e = .ok (st', evs)) : Effect s { s with ift := st' } evs := by
  cases e with
  | onAcknowledgementPacket app packet acknowledgement =>
    simp only [gmpCallback] at h
    split at h
    · simp only [bind_eq_ok, mapError_eq_ok, gmpOnAcknowledgementPacket] at h
      obtain ⟨_, -, -, -, _, -, sender, -, h⟩ := h
      by_cases hself : sender = X.self
      · -- the token sent the packet: its callback
        rw [if_pos hself] at h
        exact onAckPacket_effect h
      · rw [if_neg hself, pure_eq_ok, Prod.mk.injEq] at h
        obtain ⟨rfl, rfl⟩ := h
        exact Effect.rfl'
    · simp only [pure_eq_ok, Prod.mk.injEq] at h
      obtain ⟨rfl, rfl⟩ := h
      exact Effect.rfl'
  | onTimeoutPacket app packet =>
    simp only [gmpCallback] at h
    split at h
    · simp only [bind_eq_ok, mapError_eq_ok, gmpOnTimeoutPacket] at h
      obtain ⟨_, -, -, -, _, -, sender, -, h⟩ := h
      by_cases hself : sender = X.self
      · -- the token sent the packet: its callback
        rw [if_pos hself] at h
        exact onTimeoutPacket_effect h
      · rw [if_neg hself, pure_eq_ok, Prod.mk.injEq] at h
        obtain ⟨rfl, rfl⟩ := h
        exact Effect.rfl'
    · simp only [pure_eq_ok, Prod.mk.injEq] at h
      obtain ⟨rfl, rfl⟩ := h
      exact Effect.rfl'
  | _ =>
    simp only [gmpCallback, pure_eq_ok, Prod.mk.injEq] at h
    obtain ⟨rfl, rfl⟩ := h
    exact Effect.rfl'

end Effects

/-! ## The invariant -/

/-- What ties the token's records to the log, for holders that started with `supply₀`. -/
structure Inv (supply₀ : ℕ) (s : State) (log : List Event) : Prop where
  /-- Nothing happened under a sequence the router has not handed out. -/
  fresh : ∀ c q, s.counter c < q.toNat → transfers c q log = []
  /-- The record under each key follows the transfer there. -/
  lifecycle : ∀ c q, Pending.Lifecycle (s.ift.pendingTransfers c q).record (transfers c q log)
  finite : (Function.support s.ift.pendingAmount).Finite
  /-- The holders and what was burnt make up the start and what was minted. -/
  supply : s.ift.token.totalSupply + total Event.burnt log = supply₀ + total Event.minted log
  /-- What the transfers out started with is in flight, delivered or refunded. -/
  inFlight : ∑ᶠ k, s.ift.pendingAmount k + total Event.delivered log + total Event.refunded log =
    total Event.initiated log

section Inv

variable {X S H} {supply₀ : ℕ} {s s' : State} {log evs : List Event}

theorem PendingTransfer.eq_of_record {p : PendingTransfer} {u : Address} {a : ℕ} (h : p.record = some (u, a)) :
    p.amount = a := by
  unfold PendingTransfer.record at h
  split at h
  · cases h
  · cases h
    rfl

theorem IFTBaseStorage.pendingAmount_congr {st st' : IFTBaseStorage} (h : st'.pendingTransfers = st.pendingTransfers) :
    st'.pendingAmount = st.pendingAmount := by
  funext k
  simp only [pendingAmount, h]

theorem init_inv (token₀ : Token Address) (gmp : Address) : Inv token₀.totalSupply (State.init token₀ gmp) [] where
  fresh _ _ _ := rfl
  lifecycle _ _ := .idle
  finite := by
    have : (State.init token₀ gmp).ift.pendingAmount = 0 := rfl
    rw [this, Function.support_zero]
    exact Set.finite_empty
  supply := rfl
  inFlight := by
    have : (State.init token₀ gmp).ift.pendingAmount = 0 := rfl
    rw [this]
    simp

/-- The end of a transfer in flight under `(c, q)` with the step `e`, completed or refunded. -/
theorem Inv.finish (hinv : Inv supply₀ s log) (hcounter : ∀ c, s.counter c ≤ s'.counter c) {c : Bytes} {q : UInt64}
    {u : Address} {a : ℕ} (hrec : (s.ift.pendingTransfers c q).record = some (u, a)) {e : Pending.Step Address}
    (hend : ∀ steps, Pending.Lifecycle (some (u, a)) steps → Pending.Lifecycle none (steps ++ [e]))
    (hp : s'.ift.pendingTransfers = (s.ift.setPending c q .zero).pendingTransfers)
    (ht : ∀ c' q', transfers c' q' evs = if c' = c ∧ q' = q then [e] else [])
    (hsupply : s'.ift.token.totalSupply + total Event.burnt evs = s.ift.token.totalSupply + total Event.minted evs)
    (hi : total Event.initiated evs = 0) (hends : total Event.delivered evs + total Event.refunded evs = a) :
    Inv supply₀ s' (log ++ evs) := by
  have hlive := hinv.lifecycle c q
  rw [hrec] at hlive
  have hamt : s'.ift.pendingAmount = Function.update s.ift.pendingAmount (c, q) 0 := by
    rw [IFTBaseStorage.pendingAmount_congr hp, IFTBaseStorage.pendingAmount_setPending]
    rfl
  refine ⟨fun c' q' hq => ?_, fun c' q' => ?_, ?_, ?_, ?_⟩
  · rw [transfers_append, ht, hinv.fresh c' q' (lt_of_le_of_lt (hcounter c') hq)]
    split_ifs with hk
    · -- the key of a transfer in flight has its sequence handed out
      obtain ⟨rfl, rfl⟩ := hk
      rw [hinv.fresh c' q' (lt_of_le_of_lt (hcounter c') hq)] at hlive
      cases hlive.eq_none_of_nil
    · rfl
  · rw [transfers_append, ht, hp, IFTBaseStorage.setPending_apply]
    split_ifs with hk
    · obtain ⟨rfl, rfl⟩ := hk
      exact hend _ hlive
    · rw [List.append_nil]
      exact hinv.lifecycle c' q'
  · rw [hamt]
    exact support_update_finite hinv.finite _ _
  · have := hinv.supply
    rw [total_append, total_append]
    omega
  · -- the amount in flight goes, back to the sender or to the other side
    have hsum := finsum_update_add hinv.finite (c, q) 0
    have ha : s.ift.pendingAmount (c, q) = a := PendingTransfer.eq_of_record hrec
    have := hinv.inFlight
    rw [hamt, total_append, total_append, total_append, hi]
    omega

/-- **Every effect keeps the invariant**, the router's counters growing. -/
theorem Inv.effect (hinv : Inv supply₀ s log) (hcounter : ∀ c, s.counter c ≤ s'.counter c)
    (he : Effect s s' evs) : Inv supply₀ s' (log ++ evs) := by
  cases he with
  | quiet hp hs ht =>
    have hamt := IFTBaseStorage.pendingAmount_congr hp
    obtain ⟨hi, hd, hr⟩ := totals_of_stepless ht
    refine ⟨fun c q hq => ?_, fun c q => ?_, hamt ▸ hinv.finite, ?_, ?_⟩
    · rw [transfers_append, hinv.fresh c q (lt_of_le_of_lt (hcounter c) hq), ht]
      rfl
    · rw [transfers_append, ht, List.append_nil, hp]
      exact hinv.lifecycle c q
    · have := hinv.supply
      rw [total_append, total_append]
      omega
    · have := hinv.inFlight
      rw [hamt, total_append, total_append, total_append, hi, hd, hr]
      omega
  | start c q u a hlt hle ha hp hs ht hi hd hr =>
    -- nothing happened under the fresh key, which holds no record
    have hnil := hinv.fresh c q hlt
    have hnone : (s.ift.pendingTransfers c q).record = none := by
      have := hinv.lifecycle c q
      rw [hnil] at this
      exact this.eq_none_of_nil
    have hamt : s'.ift.pendingAmount = Function.update s.ift.pendingAmount (c, q) a := by
      rw [IFTBaseStorage.pendingAmount_congr hp, IFTBaseStorage.pendingAmount_setPending]
    refine ⟨fun c' q' hq => ?_, fun c' q' => ?_, ?_, ?_, ?_⟩
    · rw [transfers_append, ht, hinv.fresh c' q' (lt_of_le_of_lt (hcounter c') hq)]
      split_ifs with hk
      · obtain ⟨rfl, rfl⟩ := hk
        omega
      · rfl
    · rw [transfers_append, ht, hp, IFTBaseStorage.setPending_apply]
      split_ifs with hk
      · obtain ⟨rfl, rfl⟩ := hk
        rw [PendingTransfer.record_of_pos ha]
        exact (hinv.lifecycle c' q').start hnil ha
      · rw [List.append_nil]
        exact hinv.lifecycle c' q'
    · rw [hamt]
      exact support_update_finite hinv.finite _ _
    · have := hinv.supply
      rw [total_append, total_append]
      omega
    · -- the amount the transfer starts with is in flight
      have hsum := finsum_update_add hinv.finite (c, q) a
      have h0 : s.ift.pendingAmount (c, q) = 0 := PendingTransfer.amount_eq_zero hnone
      have := hinv.inFlight
      rw [hamt, total_append, total_append, total_append, hi, hd, hr]
      omega
  | complete c q u a hrec hp hs ht hi hd hr =>
    exact hinv.finish hcounter hrec (fun _ h => h.complete) hp ht hs hi (by rw [hd, hr, Nat.add_zero])
  | refund c q u a hrec hp hs ht hi hd hr =>
    exact hinv.finish hcounter hrec (fun _ h => h.refund) hp ht hs hi (by rw [hd, hr, Nat.zero_add])

/-- The GMP app's callbacks of a router transaction keep the invariant, one after the other. -/
theorem Inv.gmpCallbacks (hinv : Inv supply₀ s log) {relayer : Address} {es : List ICS26Router.Event}
    {st' : IFTBaseStorage} (h : gmpCallbacks X H s relayer es = .ok (st', evs)) :
    Inv supply₀ { s with ift := st' } (log ++ evs) := by
  induction es generalizing s log st' evs with
  | nil =>
    simp only [gmpCallbacks, pure_eq_ok, Prod.mk.injEq] at h
    obtain ⟨rfl, rfl⟩ := h
    simpa using hinv
  | cons e es ih =>
    simp only [gmpCallbacks, bind_eq_ok, pure_eq_ok, Prod.mk.injEq] at h
    obtain ⟨⟨st₁, evs₁⟩, h₁, ⟨st₂, evs₂⟩, h₂, rfl, rfl⟩ := h
    have hinv₁ : Inv supply₀ { s with ift := st₁ } (log ++ evs₁) :=
      hinv.effect (fun _ => le_rfl) (gmpCallback_effect h₁)
    rw [← List.append_assoc]
    exact ih hinv₁ h₂

end Inv

/-! ## The entry points' effects -/

section Steps

variable {X S H} {s s' : State} {env : Env} {evs : List Event}

/-- A transaction whose events are neither transfer steps, mints nor burns, and that leaves the
transfers and the supply. -/
theorem Effect.quiet_of_silent (hp : s'.ift.pendingTransfers = s.ift.pendingTransfers)
    (hs : s'.ift.token.totalSupply = s.ift.token.totalSupply)
    (hevs : ∀ e ∈ evs, (∀ c q, e.stepAt c q = none) ∧ e.minted = 0 ∧ e.burnt = 0) : Effect s s' evs :=
  .quiet hp (by rw [hs, total_eq_zero fun e he => (hevs e he).2.2, total_eq_zero fun e he => (hevs e he).2.1])
    fun c q => List.filterMap_eq_nil_iff.mpr fun e he => (hevs e he).1 c q

/-- A mint outside the transfers, followed by events that are neither transfer steps, mints nor
burns: its `Transfer` from the zero address records what the supply gains. -/
theorem Effect.minting {t : Token Address} {a : Address} {v : ℕ} {rest : List Event}
    (hmint : mint s.ift.token a v = .ok t) (hp : s'.ift.pendingTransfers = s.ift.pendingTransfers)
    (ht : s'.ift.token = t) (hrest : ∀ e ∈ rest, (∀ c q, e.stepAt c q = none) ∧ e.minted = 0 ∧ e.burnt = 0) :
    Effect s s' (.Transfer 0 a v :: rest) := by
  refine .quiet hp ?_ fun c q => List.filterMap_eq_nil_iff.mpr fun e he => ?_
  · rw [total_cons, total_cons, Event.minted_transfer_zero, Event.burnt_transfer_of_ne (mint_ne_zero hmint),
      total_eq_zero fun e he => (hrest e he).2.2, total_eq_zero fun e he => (hrest e he).2.1, ht, mint_eq_ok hmint]
    omega
  · rcases List.mem_cons.mp he with rfl | he
    · rfl
    · exact (hrest e he).1 c q

/-- A burn outside the transfers: its `Transfer` to the zero address records what the supply
loses. -/
theorem Effect.burning {t : Token Address} {a : Address} {v : ℕ}
    (hburn : burn s.ift.token a v = .ok t) (hp : s'.ift.pendingTransfers = s.ift.pendingTransfers)
    (ht : s'.ift.token = t) : Effect s s' [.Transfer a 0 v] := by
  refine .quiet hp ?_ fun c q => rfl
  have := burn_eq_ok hburn
  rw [total_cons, total_cons, Event.burnt_transfer_zero, Event.minted_transfer_of_ne (burn_ne_zero hburn), ht,
    total_nil, total_nil]
  omega

theorem silent_map_router (revs : List ICS26Router.Event) :
    ∀ e ∈ revs.map Event.router, (∀ c q, e.stepAt c q = none) ∧ e.minted = 0 ∧ e.burnt = 0 := by
  intro e he
  obtain ⟨r, -, rfl⟩ := List.mem_map.mp he
  exact ⟨fun _ _ => rfl, rfl, rfl⟩

/-- **A transfer out**: the amount is burnt from the sender, and the transfer starts under the
bridge's client and the sequence the router hands out. -/
theorem iftTransfer_effect {clientId receiver : Bytes} {amount : ℕ} {timeoutTimestamp : UInt64}
    (h : iftTransfer X H s env clientId receiver amount timeoutTimestamp = .ok (s', evs)) :
    (∀ c, s.counter c ≤ s'.counter c) ∧ Effect s s' evs := by
  simp only [iftTransfer, bind_eq_ok, require_eq_ok, exists_const, pure_eq_ok] at h
  obtain ⟨-, -, hpos, -, token, hburn, -, ⟨router, routerEvents, sequence⟩, hsend, h⟩ := h
  simp only [Prod.mk.injEq] at h
  obtain ⟨rfl, rfl⟩ := h
  obtain ⟨hcounter, hlt, rfl⟩ := sendCall_eq_ok hsend
  refine ⟨hcounter, .start _ _ env.sender amount hlt le_rfl hpos rfl ?_ (fun c' q' => ?_) ?_ ?_ ?_⟩
  · -- the amount is burnt from a sender that is not the zero address; the router's events in the
    -- middle count for nothing
    simp only [total_cons, total_append, total_map_router Event.burnt (fun _ => rfl) routerEvents,
      total_map_router Event.minted (fun _ => rfl) routerEvents,
      Event.burnt_transfer_zero, Event.minted_transfer_of_ne (burn_ne_zero hburn)]
    simp only [Event.minted, Event.burnt, total_nil, IFTBaseStorage.setPending_token]
    have := burn_eq_ok hburn
    omega
  · by_cases hk : c' = (s.ift.iftBridges clientId).clientId ∧ q' = router.store.prevSequenceSends
        (s.ift.iftBridges clientId).clientId <;> simp [Event.stepAt, hk]
  · simp [total_map_router Event.initiated (fun _ => rfl), Event.initiated]
  · simp [total_map_router Event.delivered (fun _ => rfl), Event.delivered]
  · simp [total_map_router Event.refunded (fun _ => rfl), Event.refunded]

/-- A mint from the other side. -/
theorem iftMint_effect {receiver : Address} {amount : ℕ} {accountId : Option AccountIdentifier}
    (h : iftMint H s env receiver amount accountId = .ok (s', evs)) :
    (∀ c, s.counter c ≤ s'.counter c) ∧ Effect s s' evs := by
  simp only [iftMint, bind_eq_ok, require_eq_ok, exists_const, expect_eq_ok, pure_eq_ok] at h
  obtain ⟨id, -, -, -, -, -, token, hmint, h⟩ := h
  simp only [Prod.mk.injEq] at h
  obtain ⟨rfl, rfl⟩ := h
  exact ⟨fun _ => le_rfl, .minting hmint rfl rfl (by simp [Event.stepAt, Event.minted, Event.burnt])⟩

/-- **Every transaction keeps the invariant.** -/
theorem step_inv {supply₀ : ℕ} {log : List Event} (hinv : Inv supply₀ s log) {e : Env × Call}
    (h : step X S H s e = .ok (s', evs)) : Inv supply₀ s' (log ++ evs) := by
  obtain ⟨env, call⟩ := e
  cases call with
  | router c =>
    simp only [step, routerCall, bind_eq_ok, mapError_eq_ok, pure_eq_ok] at h
    obtain ⟨⟨r, revs⟩, hr, ⟨st', ievs⟩, hcb, h⟩ := h
    simp only [Prod.mk.injEq] at h
    obtain ⟨rfl, rfl⟩ := h
    -- the router's own part leaves the token, and the GMP app's callbacks follow
    have hinv₁ : Inv supply₀ { s with router := r } (log ++ revs.map .router) :=
      hinv.effect (routerStep_counter hr) (.quiet_of_silent rfl rfl (silent_map_router revs))
    rw [← List.append_assoc]
    exact hinv₁.gmpCallbacks hcb
  | sendCall msg =>
    simp only [step, bind_eq_ok, pure_eq_ok] at h
    obtain ⟨⟨r, revs, sequence⟩, hsend, h⟩ := h
    simp only [Prod.mk.injEq] at h
    obtain ⟨rfl, rfl⟩ := h
    exact hinv.effect (sendCall_eq_ok hsend).1 (.quiet_of_silent rfl rfl (silent_map_router revs))
  | gmpPause =>
    simp only [step, require_bind_eq_ok, pure_eq_ok, Prod.mk.injEq] at h
    obtain ⟨-, -, rfl, rfl⟩ := h
    exact hinv.effect (fun _ => le_rfl) (.quiet_of_silent rfl rfl (by simp [Event.stepAt, Event.minted,
      Event.burnt]))
  | gmpUnpause =>
    simp only [step, require_bind_eq_ok, pure_eq_ok, Prod.mk.injEq] at h
    obtain ⟨-, -, rfl, rfl⟩ := h
    exact hinv.effect (fun _ => le_rfl) (.quiet_of_silent rfl rfl (by simp [Event.stepAt, Event.minted,
      Event.burnt]))
  | iftTransfer clientId receiver amount timeoutTimestamp =>
    obtain ⟨hcounter, he⟩ := iftTransfer_effect h
    exact hinv.effect hcounter he
  | iftTransferDefaultTimeout clientId receiver amount =>
    simp only [step, iftTransferDefaultTimeout, require_bind_eq_ok] at h
    obtain ⟨hcounter, he⟩ := iftTransfer_effect h.2
    exact hinv.effect hcounter he
  | iftMint receiver amount accountId =>
    obtain ⟨hcounter, he⟩ := iftMint_effect h
    exact hinv.effect hcounter he
  | registerIFTBridge clientId counterpartyIFTAddress iftSendCallConstructor supportsInterface =>
    simp only [step, bind_eq_ok, pure_eq_ok, Prod.mk.injEq] at h
    obtain ⟨⟨st', evs'⟩, h', rfl, rfl⟩ := h
    simp only [registerIFTBridge, require_bind_eq_ok, pure_eq_ok, Prod.mk.injEq] at h'
    obtain ⟨-, -, -, -, -, rfl, rfl⟩ := h'
    exact hinv.effect (fun _ => le_rfl) (.quiet_of_silent rfl rfl (by simp [Event.stepAt, Event.minted,
      Event.burnt]))
  | removeIFTBridge clientId =>
    simp only [step, bind_eq_ok, pure_eq_ok, Prod.mk.injEq] at h
    obtain ⟨⟨st', evs'⟩, h', rfl, rfl⟩ := h
    simp only [removeIFTBridge, require_bind_eq_ok, pure_eq_ok, Prod.mk.injEq] at h'
    obtain ⟨-, -, rfl, rfl⟩ := h'
    exact hinv.effect (fun _ => le_rfl) (.quiet_of_silent rfl rfl (by simp [Event.stepAt, Event.minted,
      Event.burnt]))
  | transfer dst value =>
    simp only [step, bind_eq_ok, pure_eq_ok, Prod.mk.injEq] at h
    obtain ⟨token, htransfer, rfl, rfl⟩ := h
    obtain ⟨hsrc, hdst, hsupply⟩ := transfer_eq_ok htransfer
    refine hinv.effect (fun _ => le_rfl) (.quiet_of_silent rfl hsupply ?_)
    simp only [List.mem_singleton, forall_eq]
    exact ⟨fun _ _ => rfl, Event.minted_transfer_of_ne hsrc, Event.burnt_transfer_of_ne hdst⟩
  | mint mintAddress amount =>
    simp only [step, bind_eq_ok, require_eq_ok, exists_const, pure_eq_ok, Prod.mk.injEq] at h
    obtain ⟨-, token, hmint, rfl, rfl⟩ := h
    exact hinv.effect (fun _ => le_rfl) (.minting hmint rfl rfl (by simp))
  | burn value =>
    simp only [step, bind_eq_ok, pure_eq_ok, Prod.mk.injEq] at h
    obtain ⟨token, hburn, rfl, rfl⟩ := h
    exact hinv.effect (fun _ => le_rfl) (.burning hburn rfl rfl)
  | burnFrom account value allowance =>
    simp only [step, bind_eq_ok, require_eq_ok, exists_const, pure_eq_ok, Prod.mk.injEq] at h
    obtain ⟨-, token, hburn, rfl, rfl⟩ := h
    exact hinv.effect (fun _ => le_rfl) (.burning hburn rfl rfl)

end Steps

/-! ## Runs -/

/-- The invariant holds after every run from a fresh chain. -/
theorem run_inv (token₀ : Token Address) (gmp : Address) (calls : List (Env × Call)) :
    Inv token₀.totalSupply (exec (step X S H) (State.init token₀ gmp, []) calls).1
      (exec (step X S H) (State.init token₀ gmp, []) calls).2 :=
  exec_induction (step X S H) (Inv token₀.totalSupply) (fun _ _ _ _ _ hinv h => step_inv hinv h) calls _
    (init_inv token₀ gmp)

/-- **At most one transfer per key, and the token's record follows it.** After every run from a
fresh chain, the steps logged under a client and a sequence are none, the start of a transfer of a
positive amount, or its start and then its completion or its refund, to the same sender and for the
same amount; and the token records the sender and the amount exactly while it is in flight. -/
theorem run_lifecycle (token₀ : Token Address) (gmp : Address) (calls : List (Env × Call)) (clientId : Bytes)
    (sequence : UInt64) :
    Pending.Lifecycle
      ((exec (step X S H) (State.init token₀ gmp, []) calls).1.ift.pendingTransfers clientId sequence).record
      (transfers clientId sequence (exec (step X S H) (State.init token₀ gmp, []) calls).2) :=
  (run_inv X S H token₀ gmp calls).lifecycle clientId sequence

end IFT
