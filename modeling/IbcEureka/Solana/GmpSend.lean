/-
# ICS27 GMP on Solana: sending a call and recording its result

`send_call` and `send_call_cpi` turn a call into a packet of the GMP port and
hand it to the router's `send_packet`, under the client and the sequence the
caller chose. The GMP app's `app_state` signs, so the router takes the GMP
program for the packet's application. The packet data name the sender: the
signer of `send_call`, or for `send_call_cpi` the program of the transaction's
top-level instruction, which the two CPI guards make the direct caller.

When the router acknowledges or times out the packet, it calls the GMP app
back, and the app records the outcome in a result account under the packet's
source client and sequence (`GMPCallResultAccount`), created by `init`, for
the sender to read: the commitment of the acknowledgement, or a timeout.

The packet data encoder and the base58 string of an address are inputs
(`SendExternals`); the decoders are those of `on_recv_packet` (`Externals`).
The router accounts that the GMP app's account constraints load are checked
again by the router's `send_packet`, and the model checks them there once.

A successful send is the router's send under the caller's key, and returns the
caller's sequence (`sendCallInner_eq_ok`). A successful callback found the
result account of its packet's key free, and records the packet's sender, the
key, and the status of the callback (`onAcknowledgementPacket_eq_ok`,
`onTimeoutPacket_eq_ok`).

Key definitions: `SolanaGmp.sendCallInner`, `SolanaGmp.sendCallCpi`,
`SolanaGmp.onAcknowledgementPacket`, `SolanaGmp.onTimeoutPacket`.
Key theorems: `SolanaGmp.sendCallInner_eq_ok`, `SolanaGmp.onAcknowledgementPacket_eq_ok`,
`SolanaGmp.onTimeoutPacket_eq_ok`.
-/
import IbcEureka.Solana.GmpRecv
import IbcEureka.Solana.Ift
import IbcEureka.Solana.RouterLifecycle

namespace SolanaGmp

open Txn

/-- `MIN_TIMEOUT_DURATION`, ten seconds. -/
def minTimeoutDuration : ℕ := 10

/-- `MAX_TIMEOUT_DURATION`, one day in seconds. -/
def maxTimeoutDuration : ℕ := 86400

/-- `ICS27_ENCODING_ABI`, `"application/x-solidity-abi"`. -/
def ics27EncodingAbi : Bytes :=
  [0x61, 0x70, 0x70, 0x6c, 0x69, 0x63, 0x61, 0x74, 0x69, 0x6f, 0x6e, 0x2f, 0x78, 0x2d, 0x73, 0x6f, 0x6c, 0x69,
   0x64, 0x69, 0x74, 0x79, 0x2d, 0x61, 0x62, 0x69]

/-- `ICS27_ENCODING_PROTOBUF`, `"application/x-protobuf"`. -/
def ics27EncodingProtobuf : Bytes :=
  [0x61, 0x70, 0x70, 0x6c, 0x69, 0x63, 0x61, 0x74, 0x69, 0x6f, 0x6e, 0x2f, 0x78, 0x2d, 0x70, 0x72, 0x6f, 0x74,
   0x6f, 0x62, 0x75, 0x66]

/-- The variants of `GMPError` that sending and the result callbacks raise beside those of
`on_recv_packet`, and the failures of what they call: an address in use for `init`, the router
refusing the packet, and the `expect` on the acknowledgement commitment. -/
inductive CallError
  | gmp (e : GMPError)
  | InvalidTimeout
  | TimeoutTooLong
  | TimeoutTooSoon
  | InvalidSender
  | accountAlreadyInUse
  | router (e : Ics26Router.Fail)
  | panic
  deriving DecidableEq, Repr

/-- `SendCallMsg`. -/
structure SendCallMsg where
  sourceClient : Bytes
  sequence : UInt64
  timeoutTimestamp : UInt64
  receiver : Bytes
  salt : Bytes
  payload : Bytes
  memo : Bytes
  encoding : Bytes
  deriving DecidableEq, Repr

/-- `OnAcknowledgementPacketMsg`, without the relayer, which the GMP app does not read. -/
structure OnAcknowledgementPacketMsg where
  sourceClient : Bytes
  destClient : Bytes
  sequence : UInt64
  payload : Payload
  acknowledgement : Bytes
  deriving DecidableEq, Repr

/-- `OnTimeoutPacketMsg`, without the relayer. -/
structure OnTimeoutPacketMsg where
  sourceClient : Bytes
  destClient : Bytes
  sequence : UInt64
  payload : Payload
  deriving DecidableEq, Repr

/-- The GMP app's events of sending and of the result callbacks, without the result account's
address. -/
inductive Event
  | GMPCallSent (sequence : UInt64) (sender : Pubkey) (receiver clientId salt : Bytes) (payloadSize : ℕ)
      (timeoutTimestamp : UInt64)
  | GMPCallAcknowledgment (sourceClient : Bytes) (sequence : UInt64) (sender : Pubkey) (timestamp : ℤ)
  | GMPCallTimeout (sourceClient : Bytes) (sequence : UInt64) (sender : Pubkey) (timestamp : ℤ)
  deriving DecidableEq, Repr

/-- What the sending side takes from its libraries: the packet data encoder for an encoding (it
fails on an unknown one) and the base58 string of an address. -/
structure SendExternals where
  encodeGmpPacket : GmpPacketData → Bytes → Except GMPError Bytes
  pubkeyToString : Pubkey → Bytes

/-- What the runtime gives a call of the GMP app: its app state's pause flag, the stack height and
the program of the transaction's top-level instruction, which the CPI guards read, and the clock. -/
structure CallEnv where
  paused : Bool
  stackHeight : ℕ
  topLevelProgram : Pubkey
  unixTimestamp : ℤ
  deriving DecidableEq, Repr

/-- The runtime as `validate_cpi_caller` reads it, with no remaining accounts and no call. -/
def CallEnv.toEnv (env : CallEnv) : Env :=
  ⟨env.paused, env.stackHeight, env.topLevelProgram, [], fun _ => .ok none⟩

/-- The result accounts, by source client and sequence. -/
abbrev Results := Bytes × UInt64 → Option SolanaIft.GMPCallResult

/-! ## The CPI guards -/

/-- `reject_direct_calls`: the instruction runs inside a CPI. -/
def rejectDirectCalls (env : CallEnv) : Except CpiValidationError Unit :=
  require (1 < env.stackHeight) .DirectCallNotAllowed

/-- `reject_nested_cpi`: at most one level of CPI. -/
def rejectNestedCpi (env : CallEnv) : Except CpiValidationError Unit :=
  require (env.stackHeight ≤ 2) .NestedCpiNotAllowed

section Calls

-- The GMP program's id and the router's.
variable (SX : SendExternals) (X : Externals) (H : Hashes) (programId routerId : Pubkey)

/-- `reject_cpi`: the instruction is the transaction's own, of this program. -/
def rejectCpi (env : CallEnv) : Except CpiValidationError Unit := do
  require (env.stackHeight ≤ 1) .UnauthorizedCaller
  require (env.topLevelProgram = programId) .UnauthorizedCaller

/-- `send_call_inner`: the checks of the call, the packet data, and the router's `send_packet` under
the GMP app's signature. It returns the router's accounts and events, its own event and the
sequence the router returns. -/
def sendCallInner (accts : Ics26Router.Accounts) (env : CallEnv) (senderPubkey : Pubkey) (msg : SendCallMsg)
    (status : Option Ics26Router.ClientStatus) :
    Except CallError (Ics26Router.Accounts × List Ics26Router.Event × Event × UInt64) := do
  require (0 ≤ env.unixTimestamp) .InvalidTimeout
  let currentTime := env.unixTimestamp.toNat
  let sourceClient ← (Constrained.new msg.sourceClient : Except ConstrainedError ClientId).mapError
    fun _ => .gmp .InvalidClientId
  require (currentTime + minTimeoutDuration < msg.timeoutTimestamp.toNat) .TimeoutTooSoon
  require (msg.timeoutTimestamp.toNat < currentTime + maxTimeoutDuration) .TimeoutTooLong
  let rawPacketData : RawGmpPacketData :=
    ⟨SX.pubkeyToString senderPubkey, msg.receiver, msg.salt, msg.payload, msg.memo⟩
  let packetData ← (GmpPacketData.tryFrom rawPacketData).mapError fun _ => .gmp .InvalidPacketData
  let packetDataBytes ← (SX.encodeGmpPacket packetData msg.encoding).mapError .gmp
  let ibcPayload : Payload := ⟨gmpPortId, gmpPortId, ics27Version, msg.encoding, packetDataBytes⟩
  let routerMsg : Ics26Router.MsgSendPacket := ⟨sourceClient.val, msg.sequence, msg.timeoutTimestamp, ibcPayload⟩
  let (accts, routerEvents) ←
    (Ics26Router.sendPacket H accts env.unixTimestamp programId routerMsg status).mapError .router
  -- `send_packet` returns the sequence it was given
  let sequence := msg.sequence
  pure (accts, routerEvents, .GMPCallSent sequence senderPubkey msg.receiver sourceClient.val msg.salt
    msg.payload.length msg.timeoutTimestamp, sequence)

/-- `send_call`: a transaction's own instruction, whose signer is the sender. -/
def sendCall (accts : Ics26Router.Accounts) (env : CallEnv) (sender : Pubkey) (msg : SendCallMsg)
    (status : Option Ics26Router.ClientStatus) :
    Except CallError (Ics26Router.Accounts × List Ics26Router.Event × Event × UInt64) := do
  require (env.paused = false) (.gmp .AppPaused)
  (rejectCpi programId env).mapError (.gmp ∘ CpiValidationError.toGMPError)
  sendCallInner SX H programId accts env sender msg status

/-- `send_call_cpi`: a program's call, at one level of CPI; the sender is the program of the
top-level instruction, which is then the caller. -/
def sendCallCpi (accts : Ics26Router.Accounts) (env : CallEnv) (msg : SendCallMsg)
    (status : Option Ics26Router.ClientStatus) :
    Except CallError (Ics26Router.Accounts × List Ics26Router.Event × Event × UInt64) := do
  require (env.paused = false) (.gmp .AppPaused)
  (rejectDirectCalls env).mapError (.gmp ∘ CpiValidationError.toGMPError)
  (rejectNestedCpi env).mapError (.gmp ∘ CpiValidationError.toGMPError)
  sendCallInner SX H programId accts env env.topLevelProgram msg status

/-- What both callbacks read of the packet: the sender of its GMP packet data, decoded in the
payload's encoding, validated and parsed as an address. -/
def decodeSender (payload : Payload) : Except CallError Pubkey := do
  let rawPacketData ← (X.decodeGmpPacket payload.value payload.encoding).mapError .gmp
  let packetData ← (GmpPacketData.tryFrom rawPacketData).mapError fun _ => .gmp .InvalidPacketData
  expect (X.parsePubkey packetData.sender.val) .InvalidSender

/-- `GMPCallResultAccount::init_acknowledged`: the status is the commitment of the one
acknowledgement, which `expect` takes for granted. -/
def initAcknowledged (msg : OnAcknowledgementPacketMsg) (sender : Pubkey) : Except CallError SolanaIft.GMPCallResult := do
  let commitment ← (Ics24.packetAcknowledgementCommitmentBytes32 H [msg.acknowledgement]).mapError fun _ => .panic
  pure ⟨sender, msg.sequence, msg.sourceClient, .Acknowledgement commitment⟩

/-- `GMPCallResultAccount::init_timed_out`. -/
def initTimedOut (msg : OnTimeoutPacketMsg) (sender : Pubkey) : SolanaIft.GMPCallResult :=
  ⟨sender, msg.sequence, msg.sourceClient, .Timeout⟩

/-- `on_acknowledgement_packet`: the result account of the packet's key is created, which must be
free, and records the acknowledgement. It returns the new result account and the event. -/
def onAcknowledgementPacket (results : Results) (env : CallEnv) (msg : OnAcknowledgementPacketMsg) :
    Except CallError (SolanaIft.GMPCallResult × Event) := do
  require (env.paused = false) (.gmp .AppPaused)
  require (results (msg.sourceClient, msg.sequence) = none) .accountAlreadyInUse
  (validateCpiCaller programId routerId env.toEnv).mapError (.gmp ∘ CpiValidationError.toGMPError)
  let sender ← decodeSender X msg.payload
  let result ← initAcknowledged H msg sender
  pure (result, .GMPCallAcknowledgment result.sourceClient result.sequence sender env.unixTimestamp)

/-- `on_timeout_packet`: the result account of the packet's key is created, which must be free,
and records the timeout. -/
def onTimeoutPacket (results : Results) (env : CallEnv) (msg : OnTimeoutPacketMsg) :
    Except CallError (SolanaIft.GMPCallResult × Event) := do
  require (env.paused = false) (.gmp .AppPaused)
  require (results (msg.sourceClient, msg.sequence) = none) .accountAlreadyInUse
  (validateCpiCaller programId routerId env.toEnv).mapError (.gmp ∘ CpiValidationError.toGMPError)
  let sender ← decodeSender X msg.payload
  let result := initTimedOut msg sender
  pure (result, .GMPCallTimeout result.sourceClient result.sequence sender env.unixTimestamp)

/-! ## What a call does -/

variable {SX X H programId routerId}

theorem sendPacket_events {accts accts' : Ics26Router.Accounts} {unixTimestamp : ℤ} {appCaller : Pubkey}
    {msg : Ics26Router.MsgSendPacket} {status : Option Ics26Router.ClientStatus} {evs : List Ics26Router.Event}
    (h : Ics26Router.sendPacket H accts unixTimestamp appCaller msg status = .ok (accts', evs)) :
    ∃ P, evs = [.SendPacketEvent msg.sourceClient msg.sequence P msg.timeoutTimestamp] := by
  simp only [Ics26Router.sendPacket, bind_eq_ok, require_eq_ok, exists_const, pure_eq_ok, Prod.mk.injEq] at h
  obtain ⟨_, -, _, -, -, _, -, _, -, -, _, -, -, _, -, -, _, -, -, -, -, -, rfl⟩ := h
  exact ⟨_, rfl⟩

/-- **A send is the router's send under the caller's key**: the commitment account of the key was
free and now holds the packet's commitment, the router logs the send only, and the sequence
returned is the caller's. -/
theorem sendCallInner_eq_ok {accts accts' : Ics26Router.Accounts} {env : CallEnv} {senderPubkey : Pubkey}
    {msg : SendCallMsg} {status : Option Ics26Router.ClientStatus} {routerEvents : List Ics26Router.Event}
    {e : Event} {sequence : UInt64}
    (h : sendCallInner SX H programId accts env senderPubkey msg status = .ok (accts', routerEvents, e, sequence)) :
    sequence = msg.sequence ∧ (Ics26Router.view accts).commitment (msg.sourceClient, msg.sequence) = none ∧
      ((Ics26Router.view accts').commitment (msg.sourceClient, msg.sequence)).isSome ∧
      (∀ k, k ≠ (msg.sourceClient, msg.sequence) →
        (Ics26Router.view accts').commitment k = (Ics26Router.view accts).commitment k) ∧
      ∃ P, routerEvents = [.SendPacketEvent msg.sourceClient msg.sequence P msg.timeoutTimestamp] := by
  simp only [sendCallInner, bind_eq_ok, require_eq_ok, exists_const, mapError_eq_ok, pure_eq_ok,
    Prod.mk.injEq] at h
  obtain ⟨-, sourceClient, hclient, -, -, _, -, _, -, ⟨r, revs⟩, hsend, rfl, rfl, -, rfl⟩ := h
  -- the router's client is the caller's, validated
  have hval : sourceClient.val = msg.sourceClient := Constrained.new_eq_ok.mp hclient
  obtain ⟨P, hkey, hnone, hview, -⟩ := Ics26Router.sendPacket_ok hsend
  simp only [srcKey, Prod.mk.injEq, hval] at hkey
  obtain ⟨P', hevs⟩ := sendPacket_events hsend
  rw [hval] at hevs
  have hP : srcKey P = (msg.sourceClient, msg.sequence) := by rw [srcKey, hkey.1, hkey.2]
  rw [hP] at hnone hview
  refine ⟨rfl, hnone, by simp [hview], fun k hk => ?_, P', hevs⟩
  rw [hview, Ics26Router.PacketView.setCommitment_commitment, Function.update_of_ne hk]

theorem sendCallCpi_eq_ok {accts : Ics26Router.Accounts} {env : CallEnv} {msg : SendCallMsg}
    {status : Option Ics26Router.ClientStatus}
    {r : Ics26Router.Accounts × List Ics26Router.Event × Event × UInt64}
    (h : sendCallCpi SX H programId accts env msg status = .ok r) :
    env.stackHeight = 2 ∧ sendCallInner SX H programId accts env env.topLevelProgram msg status = .ok r := by
  simp only [sendCallCpi, rejectDirectCalls, rejectNestedCpi, bind_eq_ok, mapError_eq_ok, require_eq_ok,
    exists_const] at h
  obtain ⟨-, hgt, hle, hinner⟩ := h
  exact ⟨by omega, hinner⟩

theorem sendCall_eq_ok {accts : Ics26Router.Accounts} {env : CallEnv} {sender : Pubkey} {msg : SendCallMsg}
    {status : Option Ics26Router.ClientStatus}
    {r : Ics26Router.Accounts × List Ics26Router.Event × Event × UInt64}
    (h : sendCall SX H programId accts env sender msg status = .ok r) :
    sendCallInner SX H programId accts env sender msg status = .ok r := by
  simp only [sendCall, bind_eq_ok, mapError_eq_ok] at h
  obtain ⟨_, -, _, -, hinner⟩ := h
  exact hinner

/-- **An acknowledgement is recorded once, under its packet's key**, with the commitment of the
acknowledgement. -/
theorem onAcknowledgementPacket_eq_ok {results : Results} {env : CallEnv} {msg : OnAcknowledgementPacketMsg}
    {result : SolanaIft.GMPCallResult} {e : Event}
    (h : onAcknowledgementPacket X H programId routerId results env msg = .ok (result, e)) :
    results (msg.sourceClient, msg.sequence) = none ∧ result.sourceClient = msg.sourceClient ∧
      result.sequence = msg.sequence ∧
      ∃ commitment, Ics24.packetAcknowledgementCommitmentBytes32 H [msg.acknowledgement] = .ok commitment ∧
        result.status = .Acknowledgement commitment := by
  simp only [onAcknowledgementPacket, bind_eq_ok, require_eq_ok, exists_const, mapError_eq_ok, pure_eq_ok,
    Prod.mk.injEq] at h
  obtain ⟨-, hfree, _, -, sender, -, r, hinit, rfl, -⟩ := h
  simp only [initAcknowledged, bind_eq_ok, mapError_eq_ok, pure_eq_ok] at hinit
  obtain ⟨commitment, hc, rfl⟩ := hinit
  exact ⟨hfree, rfl, rfl, commitment, hc, rfl⟩

/-- **A timeout is recorded once, under its packet's key.** -/
theorem onTimeoutPacket_eq_ok {results : Results} {env : CallEnv} {msg : OnTimeoutPacketMsg}
    {result : SolanaIft.GMPCallResult} {e : Event}
    (h : onTimeoutPacket X programId routerId results env msg = .ok (result, e)) :
    results (msg.sourceClient, msg.sequence) = none ∧ result.sourceClient = msg.sourceClient ∧
      result.sequence = msg.sequence ∧ result.status = .Timeout := by
  simp only [onTimeoutPacket, bind_eq_ok, require_eq_ok, exists_const, mapError_eq_ok, pure_eq_ok,
    Prod.mk.injEq] at h
  obtain ⟨-, hfree, _, -, sender, -, rfl, -⟩ := h
  exact ⟨hfree, rfl, rfl, rfl⟩

end Calls

end SolanaGmp
