/-
# Interchain fungible tokens on Solana: transfers out and how they end

`ift_transfer` burns the amount from the sender and has the GMP app send a
call of the counterparty's mint, under the client and the sequence the sender
chose (`send_call_cpi`, then the router's `send_packet`). It records the
transfer in a `PendingTransfer` account under the mint, the client and the
sequence. When the router acknowledges or times out the packet, the GMP app
records the outcome in its result account for the client and the sequence;
`finalize_transfer` then reads it, closes the pending account and, on a
timeout or the universal error acknowledgement, mints the amount back to the
sender. The counterparty's transfers arrive as `ift_mint` calls of the GMP
account of the counterparty token.

The model is the chain these programs share (`SolanaIft.Chain.State`): the
router's accounts, the GMP app's result accounts, the IFT program's mint
states and pending transfers, and each mint's balances and supply as a
`Fungible.Token`. A transaction (`SolanaIft.Chain.step`) is a router
instruction, with the GMP app handling the router's callbacks to it, a call of
the GMP app, an instruction of the IFT program, or a holder's own `transfer` or
`burn` of the token program. PDA addresses are their seeds, which derivation
keeps apart. The accounts an instruction is given that the model does not
hold (the IFT app state, the bridge, the token accounts) are its inputs, as
are what the light client answers and whether `mint_to` succeeds; a call of
`ift_mint` stands for the GMP account's call of it from `on_recv_packet`.

One lemma per transaction says what it does to the transfers and the supply
(`Effect`), to the router's commitment accounts, which once created stay, and
to the GMP app's results (`ResultsStep`). The invariant `Inv` follows: over
every run, each key (mint, client, sequence) holds the transfer's record
exactly while it is in flight, and its steps are those of one transfer
(`run_pending_lifecycle`); no two mints start a transfer under one client and
sequence (`run_one_mint_per_sequence`); a transfer ends only once the router
has called the GMP app back for its packet, which it did once, and it is
refunded exactly when that callback is a timeout or an acknowledgement with
the universal error acknowledgement's commitment (`run_end_after_callback`);
and each mint's supply is accounted for (`run_mint_supply`).

Key definitions: `SolanaIft.Chain.iftTransfer`, `SolanaIft.Chain.finalizeTransfer`,
`SolanaIft.Chain.step`, `SolanaIft.Chain.transfers`, `SolanaIft.Chain.callbacks`,
`SolanaIft.Chain.Effect`, `SolanaIft.Chain.Inv`.
Key theorems: `SolanaIft.Chain.step_inv`, `SolanaIft.Chain.run_pending_lifecycle`,
`SolanaIft.Chain.run_end_after_callback`, `SolanaIft.Chain.run_mint_supply`.
-/
import IbcEureka.Solana.GmpSend
import IbcEureka.Lib.Fungible
import IbcEureka.Lib.Pending

namespace SolanaIft

open Txn Fungible
open SolanaGmp (Pubkey)

/-- `DEFAULT_TIMEOUT_DURATION`, fifteen minutes. -/
def defaultTimeoutDuration : ℕ := 60 * 15

/-- `MAX_TIMEOUT_DURATION`, one day. -/
def maxTimeoutDuration : ℕ := 60 * 60 * 24

/-- `MIN_TIMEOUT_DURATION`, ten seconds. -/
def minTimeoutDuration : ℕ := 10

/-- `MAX_CLIENT_ID_LENGTH`. -/
def maxClientIdLength : ℕ := 32

/-- `MAX_RECEIVER_LENGTH`. -/
def maxReceiverLength : ℕ := 128

/-- `IFTTransferMsg`. -/
structure IFTTransferMsg where
  clientId : Bytes
  receiver : Bytes
  amount : ℕ
  timeoutTimestamp : UInt64
  sequence : UInt64
  deriving DecidableEq, Repr

/-- `ChainOptions`: what the counterparty is, for its mint call. -/
inductive ChainOptions
  | Evm
  | Cosmos (denom typeUrl icaAddress : Bytes)
  | Solana (iftProgramId counterpartyMint : Pubkey) (counterpartyClientId : Bytes)
  deriving DecidableEq, Repr

/-- The encoding of the GMP call: ABI for an EVM chain, protobuf for the others. -/
def ChainOptions.encoding : ChainOptions → Bytes
  | .Evm => SolanaGmp.ics27EncodingAbi
  | .Cosmos .. | .Solana .. => SolanaGmp.ics27EncodingProtobuf

/-- The `IFTError` variants that `ift_transfer` raises beside those of the mint-state instructions. -/
inductive TransferError
  | EmptyClientId
  | InvalidClientIdLength
  | EmptyReceiver
  | ArithmeticOverflow
  | TimeoutInPast
  | TimeoutTooLong
  | GmpCallFailed
  deriving DecidableEq, Repr

/-- What `ift_transfer` takes from its libraries: `construct_mint_call`, which fails on a receiver
that does not parse. -/
structure TransferExternals where
  constructMintCall : ChainOptions → Bytes → ℕ → Except IFTError Bytes

/-- The sender and the amount a pending transfer holds. -/
def PendingTransfer.record (p : PendingTransfer) : Pubkey × ℕ := (p.sender, p.amount)

/-- The status of a result on which `finalize_transfer` refunds: a timeout, or the commitment of
the universal error acknowledgement. -/
def CallResultStatus.Refunds (H : Hashes) (status : CallResultStatus) : Prop :=
  status = .Timeout ∨ status = .Acknowledgement (errorAckCommitment H)

/-- What the token program's `mint_to`s among an instruction's outputs do to the tokens. -/
def applyOutputs (tokens : Pubkey → Token Pubkey) : List Output → Pubkey → Token Pubkey
  | [] => tokens
  | .mintTo mint owner amount :: outs => applyOutputs (Function.update tokens mint ((tokens mint).mint owner amount)) outs
  | .event _ :: outs => applyOutputs tokens outs

/-- What an output mints of `mint`. -/
def Output.mintedOf (mint : Pubkey) : Output → ℕ
  | .mintTo mint' _ amount => if mint = mint' then amount else 0
  | .event _ => 0

/-- The supply of each mint after the outputs: what they mint of it is added. -/
theorem applyOutputs_totalSupply (tokens : Pubkey → Token Pubkey) (outs : List Output) (M : Pubkey) :
    (applyOutputs tokens outs M).totalSupply = (tokens M).totalSupply + (outs.map (Output.mintedOf M)).sum := by
  induction outs generalizing tokens with
  | nil => simp [applyOutputs]
  | cons o outs ih =>
    cases o with
    | mintTo mint owner amount =>
      rw [applyOutputs, ih, List.map_cons, List.sum_cons, Output.mintedOf]
      by_cases hM : M = mint
      · subst hM
        rw [Function.update_self, Token.mint_totalSupply, if_pos rfl]
        omega
      · rw [Function.update_of_ne hM, if_neg hM, Nat.zero_add]
    | event e => simp [applyOutputs, ih, Output.mintedOf]

theorem checkAndUpdateMintRateLimit_mint {m m' : IFTAppMintState} {amount : ℕ} {unixTimestamp : ℤ}
    (h : checkAndUpdateMintRateLimit m amount unixTimestamp = .ok m') : m'.mint = m.mint := by
  rcases checkAndUpdateMintRateLimit_eq_ok h with ⟨-, rfl⟩ | ⟨-, -, rfl⟩ <;> rfl

@[simp] theorem reduceMintRateLimitUsage_mint (m : IFTAppMintState) (amount : ℕ) (unixTimestamp : ℤ) :
    (reduceMintRateLimitUsage m amount unixTimestamp).mint = m.mint := by
  rw [reduceMintRateLimitUsage_eq]
  split_ifs <;> rfl

/-- `ERROR_ACK_COMMITMENT` is the commitment of the universal error acknowledgement alone. -/
theorem packetAcknowledgementCommitmentBytes32_universalErrorAck (H : Hashes) :
    Ics24.packetAcknowledgementCommitmentBytes32 H [Ics24.universalErrorAck] = .ok (errorAckCommitment H) := by
  rw [Ics24.packetAcknowledgementCommitmentBytes32_of_ne_nil H (List.cons_ne_nil _ _)]
  simp [errorAckCommitment]

section FinalizeSpec

variable {H : Hashes} {programId : Pubkey} {env : Env} {app : IFTAppState} {m m' : IFTAppMintState}
  {pending : PendingTransfer} {gmpResult : GMPCallResult} {senderTokenAccount : TokenAccount} {clientId : Bytes}
  {sequence : UInt64} {outs : List Output}

/-- A refund of the pending amount to the sender's token account: the mint and its event. -/
theorem refund_outputs {reason : RefundReason} {a : IFTAppMintState × List Output}
    (hmint : mintToAccount env m senderTokenAccount.owner pending.amount = .ok a)
    (hown : senderTokenAccount.owner = pending.sender) :
    a.1.mint = m.mint ∧ a.2 ++ [.event (.IFTTransferRefunded a.1.mint pending.clientId pending.sequence
      pending.sender pending.amount reason env.unixTimestamp)] = [.mintTo m.mint pending.sender pending.amount,
      .event (.IFTTransferRefunded m.mint pending.clientId pending.sequence pending.sender pending.amount reason
        env.unixTimestamp)] := by
  obtain ⟨m₁, outs₁⟩ := a
  obtain ⟨hcheck, rfl⟩ := mintToAccount_eq_ok hmint
  have hm := checkAndUpdateMintRateLimit_mint hcheck
  simp only [hm, hown, List.cons_append, List.nil_append, and_self]

/-- **What `finalize_transfer` does**: its account checks pass, and it refunds the pending amount to
the sender on a status that calls for it, and reports the transfer completed on any other. -/
theorem finalizeTransfer_eq_ok
    (h : SolanaIft.finalizeTransfer H programId env app m pending gmpResult senderTokenAccount clientId sequence =
      .ok (m', outs)) :
    pending.mint = m.mint ∧ pending.clientId = clientId ∧ pending.sequence = sequence ∧ m'.mint = m.mint ∧
      gmpResult.sourceClient = clientId ∧ gmpResult.sequence = sequence ∧
      ((gmpResult.status.Refunds H ∧ ∃ reason, outs = [.mintTo m.mint pending.sender pending.amount,
          .event (.IFTTransferRefunded m.mint clientId sequence pending.sender pending.amount reason env.unixTimestamp)]) ∨
        (¬gmpResult.status.Refunds H ∧ outs = [.event (.IFTTransferCompleted m.mint clientId sequence pending.sender
          pending.amount env.unixTimestamp)])) := by
  simp only [SolanaIft.finalizeTransfer, rejectCpi, bind_eq_ok, require_eq_ok, exists_const] at h
  obtain ⟨-, hmint, rfl, rfl, -, hown, -, -, hrc, hrs, hstatus⟩ := h
  refine ⟨hmint, rfl, rfl, ?_⟩
  -- a refund on a timeout or the error acknowledgement, the completion on any other
  cases hs : gmpResult.status with
  | Timeout =>
    rw [hs] at hstatus
    simp only [bind_eq_ok, pure_eq_ok, Prod.mk.injEq] at hstatus
    obtain ⟨a, ha, rfl, rfl⟩ := hstatus
    obtain ⟨hm, houts⟩ := refund_outputs ha hown
    exact ⟨hm, hrc, hrs, .inl ⟨.inl rfl, _, houts⟩⟩
  | Acknowledgement commitment =>
    rw [hs] at hstatus
    by_cases herror : commitment = errorAckCommitment H
    · simp only [if_pos herror, bind_eq_ok, pure_eq_ok, Prod.mk.injEq] at hstatus
      obtain ⟨a, ha, rfl, rfl⟩ := hstatus
      obtain ⟨hm, houts⟩ := refund_outputs ha hown
      exact ⟨hm, hrc, hrs, .inl ⟨.inr (by rw [herror]), _, houts⟩⟩
    · simp only [if_neg herror, pure_eq_ok, Prod.mk.injEq] at hstatus
      obtain ⟨rfl, rfl⟩ := hstatus
      refine ⟨reduceMintRateLimitUsage_mint _ _ _, hrc, hrs, .inr ⟨?_, by simp⟩⟩
      rintro (h | h)
      · cases h
      · exact herror (CallResultStatus.Acknowledgement.inj h)

end FinalizeSpec

namespace Chain

/-- The programs' ids. -/
structure Programs where
  ift : Pubkey
  gmp : Pubkey
  router : Pubkey

/-- The accounts the transactions touch: the router's, the GMP app's results, the IFT program's mint
states and pending transfers, and each mint's balances and supply. -/
structure State where
  router : Ics26Router.Accounts
  results : SolanaGmp.Results
  mints : Pubkey → Option IFTAppMintState
  pending : Pubkey × Bytes × UInt64 → Option PendingTransfer
  tokens : Pubkey → Token Pubkey

/-- A chain with any router, mint states and tokens, and no result and no pending transfer yet. -/
def State.init (router : Ics26Router.Accounts) (mints : Pubkey → Option IFTAppMintState)
    (tokens : Pubkey → Token Pubkey) : State :=
  ⟨router, fun _ => none, mints, fun _ => none, tokens⟩

/-- Why a transaction fails. -/
inductive Error
  | ift (e : SolanaIft.Error)
  | transfer (e : TransferError)
  | gmp (e : SolanaGmp.CallError)
  | router (e : Ics26Router.Fail)
  | accountNotInitialized
  | accountAlreadyInUse
  deriving DecidableEq, Repr

/-- What a transaction logs: the programs' events, the IFT program's outputs, and the calls of the
token program that no program logs. -/
inductive Event
  | router (e : Ics26Router.Event)
  | gmp (e : SolanaGmp.Event)
  | ift (o : Output)
  /-- The token program's `burn`, called by `ift_transfer`. -/
  | burn (mint owner : Pubkey) (amount : ℕ)
  | IFTTransferInitiated (mint : Pubkey) (clientId : Bytes) (sequence : UInt64) (sender : Pubkey)
      (receiver : Bytes) (amount : ℕ) (timeoutTimestamp : UInt64)
  /-- A holder's own `transfer` and `burn` of the token program. -/
  | tokenTransfer (mint src dst : Pubkey) (amount : ℕ)
  | tokenBurn (mint owner : Pubkey) (amount : ℕ)

/-! ## The transactions -/

section Transactions

variable (TX : TransferExternals) (SX : SolanaGmp.SendExternals) (X : SolanaGmp.Externals) (H : Hashes)
  (ids : Programs)

/-- An instruction of the IFT program on the mint state of `mint`, its `mint_to`s applied. -/
def onMintState (s : State) (mint : Pubkey) (f : IFTAppMintState → Except SolanaIft.Error (IFTAppMintState × List Output)) :
    Except Error (State × List Event) := do
  let m ← expect (s.mints mint) .accountNotInitialized
  let (m, outs) ← (f m).mapError .ift
  pure ({ s with mints := Function.update s.mints mint (some m), tokens := applyOutputs s.tokens outs }, outs.map .ift)

/-- The timeout of `ift_transfer`: fifteen minutes from now for `0`, or the one asked for, which must
lie more than the least and at most the longest duration ahead. -/
def transferTimeout (currentTime : ℕ) (timeoutTimestamp : UInt64) : Except Error UInt64 :=
  if timeoutTimestamp = 0 then pure (UInt64.ofNat (currentTime + defaultTimeoutDuration))
  else do
    require (currentTime + minTimeoutDuration < timeoutTimestamp.toNat) (.transfer .TimeoutInPast)
    require (timeoutTimestamp.toNat ≤ currentTime + maxTimeoutDuration) (.transfer .TimeoutTooLong)
    pure timeoutTimestamp

/-- `ift_transfer`, with the checks of `IFTTransfer`'s accounts: the amount is burnt from the sender,
the GMP app sends the mint call under the client and the sequence the sender chose, and the pending
transfer is created under the mint, the client and that sequence, where there must be none. The
bridge and its chain options are the accounts given, `gmpPaused` is the GMP app's pause flag and
`status` the light client's answer to the router. -/
def iftTransfer (s : State) (env : Env) (app : IFTAppState) (mint : Pubkey) (bridge : IFTBridge)
    (chainOptions : ChainOptions) (senderTokenAccount : TokenAccount) (sender : Pubkey) (gmpPaused : Bool)
    (status : Option Ics26Router.ClientStatus) (msg : IFTTransferMsg) : Except Error (State × List Event) := do
  require (app.paused = false) (.ift (.ift .AppPaused))
  let m ← expect (s.mints mint) .accountNotInitialized
  require (msg.clientId ≠ []) (.transfer .EmptyClientId)
  require (msg.clientId.length ≤ maxClientIdLength) (.transfer .InvalidClientIdLength)
  require (bridge.active = true) (.ift (.ift .BridgeNotActive))
  require (senderTokenAccount.mint = m.mint) (.ift (.ift .TokenAccountOwnerMismatch))
  require (senderTokenAccount.owner = sender) (.ift (.ift .TokenAccountOwnerMismatch))
  -- `init` of the pending transfer's account
  require (s.pending (m.mint, msg.clientId, msg.sequence) = none) .accountAlreadyInUse
  require (0 < msg.amount) (.ift (.ift .ZeroAmount))
  require (msg.receiver ≠ []) (.transfer .EmptyReceiver)
  require (msg.receiver.length ≤ maxReceiverLength) (.ift (.ift .InvalidReceiver))
  require (0 ≤ env.unixTimestamp) (.transfer .ArithmeticOverflow)
  let timeout ← transferTimeout env.unixTimestamp.toNat msg.timeoutTimestamp
  let token ← expect ((s.tokens m.mint).burn sender msg.amount) (.ift .tokenProgram)
  let mintCallPayload ← (TX.constructMintCall chainOptions msg.receiver msg.amount).mapError (.ift ∘ .ift)
  let gmpMsg : SolanaGmp.SendCallMsg :=
    ⟨msg.clientId, msg.sequence, timeout, bridge.counterpartyIftAddress, [], mintCallPayload, [], chainOptions.encoding⟩
  -- the GMP app runs one level down, under the same top-level instruction
  let (router, routerEvents, gmpEvent, sequence) ←
    (SolanaGmp.sendCallCpi SX H ids.gmp s.router ⟨gmpPaused, env.stackHeight + 1, env.topLevelProgram, env.unixTimestamp⟩
      gmpMsg status).mapError fun _ => .transfer .GmpCallFailed
  let pending : PendingTransfer := ⟨m.mint, msg.clientId, sequence, sender, msg.amount⟩
  pure ({ s with
      router
      tokens := Function.update s.tokens m.mint token
      pending := Function.update s.pending (m.mint, msg.clientId, msg.sequence) (some pending) },
    .burn m.mint sender msg.amount :: routerEvents.map .router ++
      [.gmp gmpEvent, .IFTTransferInitiated m.mint msg.clientId sequence sender msg.receiver msg.amount timeout])

/-- `finalize_transfer`, with the loads of `FinalizeTransfer`'s accounts: the mint state, the pending
transfer under its mint and the client and the sequence given, and the GMP app's result under the
client and the sequence. The pending transfer's account is closed. -/
def finalizeTransfer (s : State) (env : Env) (app : IFTAppState) (mint : Pubkey) (senderTokenAccount : TokenAccount)
    (clientId : Bytes) (sequence : UInt64) : Except Error (State × List Event) := do
  let m ← expect (s.mints mint) .accountNotInitialized
  let pending ← expect (s.pending (m.mint, clientId, sequence)) .accountNotInitialized
  let gmpResult ← expect (s.results (clientId, sequence)) .accountNotInitialized
  let (m', outs) ← (SolanaIft.finalizeTransfer H ids.ift env app m pending gmpResult senderTokenAccount clientId
    sequence).mapError .ift
  pure ({ s with
      mints := Function.update s.mints mint (some m')
      pending := Function.update s.pending (m.mint, clientId, sequence) none
      tokens := applyOutputs s.tokens outs },
    outs.map .ift)

/-- The GMP app's part in a callback of the router: an acknowledgement or a timeout of a packet of
the GMP app records its result, run one level down from the router's top-level instruction. A
callback to another application leaves the results. -/
def gmpCallback (results : SolanaGmp.Results) (gmpPaused : Bool) (unixTimestamp : ℤ) :
    Ics26Router.Event → Except Error (SolanaGmp.Results × List Event)
  | .onAcknowledgementPacket app P payload acknowledgement =>
    if app = ids.gmp then do
      let (result, e) ← (SolanaGmp.onAcknowledgementPacket X H ids.gmp ids.router results
        ⟨gmpPaused, 2, ids.router, unixTimestamp⟩
        ⟨P.sourceClient, P.destClient, P.sequence, payload, acknowledgement⟩).mapError .gmp
      pure (Function.update results (P.sourceClient, P.sequence) (some result), [.gmp e])
    else pure (results, [])
  | .onTimeoutPacket app P payload =>
    if app = ids.gmp then do
      let (result, e) ← (SolanaGmp.onTimeoutPacket X ids.gmp ids.router results
        ⟨gmpPaused, 2, ids.router, unixTimestamp⟩ ⟨P.sourceClient, P.destClient, P.sequence, payload⟩).mapError .gmp
      pure (Function.update results (P.sourceClient, P.sequence) (some result), [.gmp e])
    else pure (results, [])
  | _ => pure (results, [])

/-- The GMP app's part in the callbacks of a router instruction, one after the other. -/
def gmpCallbacks (results : SolanaGmp.Results) (gmpPaused : Bool) (unixTimestamp : ℤ) :
    List Ics26Router.Event → Except Error (SolanaGmp.Results × List Event)
  | [] => pure (results, [])
  | e :: es => do
    let (results, events) ← gmpCallback X H ids results gmpPaused unixTimestamp e
    let (results, events') ← gmpCallbacks results gmpPaused unixTimestamp es
    pure (results, events ++ events')

/-- A router instruction at the top of a transaction, the GMP app handling its callbacks. -/
def routerTx (s : State) (i : Ics26Router.Instruction) (gmpPaused : Bool) (unixTimestamp : ℤ) :
    Except Error (State × List Event) := do
  let (router, routerEvents) ← (Ics26Router.step H s.router i).mapError .router
  let (results, events) ← gmpCallbacks X H ids s.results gmpPaused unixTimestamp routerEvents
  pure ({ s with router, results }, routerEvents.map .router ++ events)

/-- `send_call` of the GMP app at the top of a transaction. -/
def gmpSendCall (s : State) (env : SolanaGmp.CallEnv) (sender : Pubkey) (msg : SolanaGmp.SendCallMsg)
    (status : Option Ics26Router.ClientStatus) : Except Error (State × List Event) := do
  let (router, routerEvents, e, _) ← (SolanaGmp.sendCall SX H ids.gmp s.router env sender msg status).mapError .gmp
  pure ({ s with router }, routerEvents.map .router ++ [.gmp e])

/-- A transaction, with the accounts and the answers its instruction is given. -/
inductive Tx
  | router (i : Ics26Router.Instruction) (gmpPaused : Bool) (unixTimestamp : ℤ)
  | gmpSendCall (env : SolanaGmp.CallEnv) (sender : Pubkey) (msg : SolanaGmp.SendCallMsg)
      (status : Option Ics26Router.ClientStatus)
  | iftTransfer (env : Env) (app : IFTAppState) (mint : Pubkey) (bridge : IFTBridge) (chainOptions : ChainOptions)
      (senderTokenAccount : TokenAccount) (sender : Pubkey) (gmpPaused : Bool) (status : Option Ics26Router.ClientStatus)
      (msg : IFTTransferMsg)
  | finalizeTransfer (env : Env) (app : IFTAppState) (mint : Pubkey) (senderTokenAccount : TokenAccount)
      (clientId : Bytes) (sequence : UInt64)
  | iftMint (mint : Pubkey) (env : Env) (app : IFTAppState) (bridge : IFTBridge) (receiverOwner gmpAccount : Pubkey)
      (msg : MintMsg)
  | adminMint (mint : Pubkey) (env : Env) (app : IFTAppState) (receiverOwner admin : Pubkey) (msg : MintMsg)
  | setMintRateLimit (mint : Pubkey) (env : Env) (app : IFTAppState) (admin : Pubkey) (dailyMintLimit : ℕ)
  | tokenTransfer (mint src dst : Pubkey) (amount : ℕ)
  | tokenBurn (mint owner : Pubkey) (amount : ℕ)

/-- One transaction, atomic: on failure the chain stays as it was. -/
def step (s : State) : Tx → Except Error (State × List Event)
  | .router i gmpPaused unixTimestamp => routerTx X H ids s i gmpPaused unixTimestamp
  | .gmpSendCall env sender msg status => gmpSendCall SX H ids s env sender msg status
  | .iftTransfer env app mint bridge chainOptions senderTokenAccount sender gmpPaused status msg =>
    iftTransfer TX SX H ids s env app mint bridge chainOptions senderTokenAccount sender gmpPaused status msg
  | .finalizeTransfer env app mint senderTokenAccount clientId sequence =>
    finalizeTransfer H ids s env app mint senderTokenAccount clientId sequence
  | .iftMint mint env app bridge receiverOwner gmpAccount msg =>
    onMintState s mint fun m => SolanaIft.iftMint H env app m bridge receiverOwner gmpAccount msg
  | .adminMint mint env app receiverOwner admin msg =>
    onMintState s mint fun m => SolanaIft.adminMint ids.ift env app m receiverOwner admin msg
  | .setMintRateLimit mint env app admin dailyMintLimit =>
    onMintState s mint fun m => SolanaIft.setMintRateLimit ids.ift env app m admin dailyMintLimit
  | .tokenTransfer mint src dst amount => do
    let token ← expect ((s.tokens mint).transfer src dst amount) (.ift .tokenProgram)
    pure ({ s with tokens := Function.update s.tokens mint token }, [.tokenTransfer mint src dst amount])
  | .tokenBurn mint owner amount => do
    let token ← expect ((s.tokens mint).burn owner amount) (.ift .tokenProgram)
    pure ({ s with tokens := Function.update s.tokens mint token }, [.tokenBurn mint owner amount])

end Transactions

/-! ## What the log records -/

/-- The step of the transfer under a mint, a client and a sequence that an entry records. -/
def Event.stepAt (mint : Pubkey) (c : Bytes) (q : UInt64) : Event → Option (Pending.Step Pubkey)
  | .IFTTransferInitiated mint' c' q' sender _ amount _ =>
    if mint = mint' ∧ c = c' ∧ q = q' then some (.initiated sender amount) else none
  | .ift (.event (.IFTTransferRefunded mint' c' q' sender amount _ _)) =>
    if mint = mint' ∧ c = c' ∧ q = q' then some (.refunded sender amount) else none
  | .ift (.event (.IFTTransferCompleted mint' c' q' sender amount _)) =>
    if mint = mint' ∧ c = c' ∧ q = q' then some (.completed sender amount) else none
  | _ => none

/-- The steps of the transfer under a mint, a client and a sequence, in the order of the log. -/
def transfers (mint : Pubkey) (c : Bytes) (q : UInt64) (log : List Event) : List (Pending.Step Pubkey) :=
  log.filterMap (Event.stepAt mint c q)

/-- A callback of the router to an application, for a packet it acknowledged or timed out. -/
inductive Callback
  | acknowledged (acknowledgement : Bytes)
  | timedOut
  deriving DecidableEq, Repr

/-- The callback to the GMP app `gmp` for the packet of a client and a sequence that an entry
records. -/
def Event.callbackAt (gmp : Pubkey) (c : Bytes) (q : UInt64) : Event → Option Callback
  | .router (.onAcknowledgementPacket app P _ acknowledgement) =>
    if app = gmp ∧ srcKey P = (c, q) then some (.acknowledged acknowledgement) else none
  | .router (.onTimeoutPacket app P _) => if app = gmp ∧ srcKey P = (c, q) then some .timedOut else none
  | _ => none

/-- The callbacks to the GMP app for the packet of a client and a sequence, in the order of the log. -/
def callbacks (gmp : Pubkey) (c : Bytes) (q : UInt64) (log : List Event) : List Callback :=
  log.filterMap (Event.callbackAt gmp c q)

/-- The status the GMP app records for a callback: a timeout, or the commitment of the
acknowledgement. -/
inductive Callback.Records (H : Hashes) : Callback → CallResultStatus → Prop
  | timedOut : Records H .timedOut .Timeout
  | acknowledged (acknowledgement commitment : Bytes) :
      Ics24.packetAcknowledgementCommitmentBytes32 H [acknowledgement] = .ok commitment →
      Records H (.acknowledged acknowledgement) (.Acknowledgement commitment)

/-- A callback that calls for a refund: a timeout, or an acknowledgement whose commitment is that of
the universal error acknowledgement. -/
def Callback.Refunds (H : Hashes) : Callback → Prop
  | .timedOut => True
  | .acknowledged acknowledgement =>
    Ics24.packetAcknowledgementCommitmentBytes32 H [acknowledgement] =
      Ics24.packetAcknowledgementCommitmentBytes32 H [Ics24.universalErrorAck]

/-- What an entry mints of `mint` for the other side or for the admin. -/
def Event.received (mint : Pubkey) : Event → ℕ
  | .ift (.event (.IFTMintReceived mint' _ _ amount _ _)) => if mint = mint' then amount else 0
  | .ift (.event (.AdminMintExecuted mint' _ amount _ _)) => if mint = mint' then amount else 0
  | _ => 0

/-- What an entry delivers of `mint` to the other side: a transfer completed. -/
def Event.delivered (mint : Pubkey) : Event → ℕ
  | .ift (.event (.IFTTransferCompleted mint' _ _ _ amount _)) => if mint = mint' then amount else 0
  | _ => 0

/-- What a holder burns of `mint` itself. -/
def Event.burnt (mint : Pubkey) : Event → ℕ
  | .tokenBurn mint' _ amount => if mint = mint' then amount else 0
  | _ => 0

/-- What a log mints of `mint` for the other side or for the admin. -/
def received (mint : Pubkey) (log : List Event) : ℕ := (log.map (Event.received mint)).sum

/-- What a log delivers of `mint` to the other side. -/
def delivered (mint : Pubkey) (log : List Event) : ℕ := (log.map (Event.delivered mint)).sum

/-- What holders burn of `mint` themselves in a log. -/
def burnt (mint : Pubkey) (log : List Event) : ℕ := (log.map (Event.burnt mint)).sum

/-- The amount in flight of `mint`, by client and sequence. -/
def State.pendingAmount (s : State) (mint : Pubkey) (k : Bytes × UInt64) : ℕ :=
  ((s.pending (mint, k.1, k.2)).map PendingTransfer.amount).getD 0

@[simp] theorem transfers_append (mint : Pubkey) (c : Bytes) (q : UInt64) (log log' : List Event) :
    transfers mint c q (log ++ log') = transfers mint c q log ++ transfers mint c q log' := by
  simp [transfers, List.filterMap_append]

@[simp] theorem callbacks_append (gmp : Pubkey) (c : Bytes) (q : UInt64) (log log' : List Event) :
    callbacks gmp c q (log ++ log') = callbacks gmp c q log ++ callbacks gmp c q log' := by
  simp [callbacks, List.filterMap_append]

@[simp] theorem received_append (mint : Pubkey) (log log' : List Event) :
    received mint (log ++ log') = received mint log + received mint log' := by
  simp [received]

@[simp] theorem delivered_append (mint : Pubkey) (log log' : List Event) :
    delivered mint (log ++ log') = delivered mint log + delivered mint log' := by
  simp [delivered]

@[simp] theorem burnt_append (mint : Pubkey) (log log' : List Event) :
    burnt mint (log ++ log') = burnt mint log + burnt mint log' := by
  simp [burnt]

/-- An entry that records no transfer step, no mint and no burn. -/
def Event.Quiet (e : Event) : Prop :=
  (∀ M c q, e.stepAt M c q = none) ∧ ∀ M, e.received M = 0 ∧ e.delivered M = 0 ∧ e.burnt M = 0

section Quiet

variable {log : List Event}

theorem transfers_eq_nil_of_quiet (h : ∀ e ∈ log, e.Quiet) (M : Pubkey) (c : Bytes) (q : UInt64) :
    transfers M c q log = [] :=
  List.filterMap_eq_nil_iff.mpr fun e he => (h e he).1 M c q

theorem sum_eq_zero_of_forall {f : Event → ℕ} (h : ∀ e ∈ log, f e = 0) : (log.map f).sum = 0 :=
  List.sum_eq_zero fun x hx => by
    obtain ⟨e, he, rfl⟩ := List.mem_map.mp hx
    exact h e he

theorem received_eq_zero_of_quiet (h : ∀ e ∈ log, e.Quiet) (M : Pubkey) : received M log = 0 :=
  sum_eq_zero_of_forall fun e he => ((h e he).2 M).1

theorem delivered_eq_zero_of_quiet (h : ∀ e ∈ log, e.Quiet) (M : Pubkey) : delivered M log = 0 :=
  sum_eq_zero_of_forall fun e he => ((h e he).2 M).2.1

theorem burnt_eq_zero_of_quiet (h : ∀ e ∈ log, e.Quiet) (M : Pubkey) : burnt M log = 0 :=
  sum_eq_zero_of_forall fun e he => ((h e he).2 M).2.2

theorem quiet_router (e : Ics26Router.Event) : (Event.router e).Quiet :=
  ⟨fun _ _ _ => rfl, fun _ => ⟨rfl, rfl, rfl⟩⟩

theorem quiet_gmp (e : SolanaGmp.Event) : (Event.gmp e).Quiet :=
  ⟨fun _ _ _ => rfl, fun _ => ⟨rfl, rfl, rfl⟩⟩

theorem quiet_map_router (es : List Ics26Router.Event) : ∀ e ∈ es.map Event.router, e.Quiet := by
  intro e he
  obtain ⟨r, -, rfl⟩ := List.mem_map.mp he
  exact quiet_router r

/-- Only the router's events record callbacks. -/
theorem callbacks_eq_nil_of_not_router {gmp : Pubkey} (h : ∀ e ∈ log, ∀ r, e ≠ .router r) (c : Bytes) (q : UInt64) :
    callbacks gmp c q log = [] := by
  refine List.filterMap_eq_nil_iff.mpr fun e he => ?_
  cases e with
  | router r => exact absurd rfl (h _ he r)
  | _ => rfl

end Quiet

/-! ## What each transaction does -/

/-- The outputs of a mint for the other side or for the admin, or of a new limit: what they mint of
each mint is what they report received of it, and they record no transfer step and no delivery. -/
def MintOutputs (outs : List Output) : Prop :=
  (∀ M, (outs.map (Output.mintedOf M)).sum = received M (outs.map .ift)) ∧
    ∀ o ∈ outs, (∀ M c q, (Event.ift o).stepAt M c q = none) ∧ ∀ M, (Event.ift o).delivered M = 0

section MintOutputs

variable {H : Hashes} {programId : Pubkey} {env : Env} {app : IFTAppState} {m m' : IFTAppMintState}
  {outs : List Output}

/-- A mint to `owner` reported as received by the event `e`. -/
theorem mintOutputs_of_mint {owner : Pubkey} {amount : ℕ} {a : IFTAppMintState × List Output} {e : SolanaIft.Event}
    (hmint : mintToAccount env m owner amount = .ok a)
    (he : ∀ M, (Event.ift (.event e)).received M = if M = a.1.mint then amount else 0)
    (hstep : ∀ M c q, (Event.ift (.event e)).stepAt M c q = none) (hdel : ∀ M, (Event.ift (.event e)).delivered M = 0) :
    MintOutputs (a.2 ++ [.event e]) := by
  obtain ⟨m₁, outs₁⟩ := a
  obtain ⟨-, rfl⟩ := mintToAccount_eq_ok hmint
  refine ⟨fun M => ?_, ?_⟩
  · have hzero : (Event.ift (.mintTo m₁.mint owner amount)).received M = 0 := rfl
    simp only [List.cons_append, List.nil_append, List.map_cons, List.map_nil, List.sum_cons, List.sum_nil,
      received]
    rw [hzero, he M]
    simp [Output.mintedOf]
  · intro o ho
    simp only [List.cons_append, List.nil_append, List.mem_cons, List.not_mem_nil, or_false] at ho
    rcases ho with rfl | rfl
    · exact ⟨fun _ _ _ => rfl, fun _ => rfl⟩
    · exact ⟨hstep, hdel⟩

theorem iftMint_mintOutputs {bridge : IFTBridge} {receiverOwner gmpAccount : Pubkey} {msg : MintMsg}
    (h : SolanaIft.iftMint H env app m bridge receiverOwner gmpAccount msg = .ok (m', outs)) : MintOutputs outs := by
  simp only [SolanaIft.iftMint, bind_eq_ok, require_eq_ok, exists_const, pure_eq_ok, Prod.mk.injEq] at h
  obtain ⟨-, -, -, -, -, -, -, a, hmint, -, rfl⟩ := h
  exact mintOutputs_of_mint hmint (fun M => by simp [Event.received]) (fun _ _ _ => rfl) (fun _ => rfl)

theorem adminMint_mintOutputs {receiverOwner admin : Pubkey} {msg : MintMsg}
    (h : SolanaIft.adminMint programId env app m receiverOwner admin msg = .ok (m', outs)) : MintOutputs outs := by
  simp only [SolanaIft.adminMint, rejectCpi, bind_eq_ok, require_eq_ok, exists_const, pure_eq_ok,
    Prod.mk.injEq] at h
  obtain ⟨-, -, -, -, -, a, hmint, -, rfl⟩ := h
  exact mintOutputs_of_mint hmint (fun M => by simp [Event.received]) (fun _ _ _ => rfl) (fun _ => rfl)

theorem setMintRateLimit_mintOutputs {admin : Pubkey} {dailyMintLimit : ℕ}
    (h : SolanaIft.setMintRateLimit programId env app m admin dailyMintLimit = .ok (m', outs)) : MintOutputs outs := by
  simp only [SolanaIft.setMintRateLimit, rejectCpi, bind_eq_ok, require_eq_ok, exists_const, pure_eq_ok,
    Prod.mk.injEq] at h
  obtain ⟨-, -, -, rfl⟩ := h
  refine ⟨fun M => by simp [Output.mintedOf, received, Event.received], ?_⟩
  simp [Event.stepAt, Event.delivered]

end MintOutputs

/-- What a successful transaction does to the IFT program's transfers and to each mint's supply,
with what it logs: nothing to the transfers, only mints and holders' burns changing the supply; the
start of one, under a mint, a client and a sequence whose commitment account the router just
created; the completion of one in flight, on a result of the GMP app that calls for no refund; its
refund, on a result that does. -/
inductive Effect (H : Hashes) (s s' : State) (log : List Event) : Prop
  | quiet :
      s'.pending = s.pending →
      (∀ M, (s'.tokens M).totalSupply + burnt M log = (s.tokens M).totalSupply + received M log) →
      (∀ M c q, transfers M c q log = []) → (∀ M, delivered M log = 0) → Effect H s s' log
  | start (M : Pubkey) (c : Bytes) (q : UInt64) (u : Pubkey) (a : ℕ) :
      (Ics26Router.view s.router).commitment (c, q) = none →
      ((Ics26Router.view s'.router).commitment (c, q)).isSome →
      0 < a → s.pending (M, c, q) = none →
      s'.pending = Function.update s.pending (M, c, q) (some ⟨M, c, q, u, a⟩) →
      (∀ M', (s'.tokens M').totalSupply + (if M' = M then a else 0) = (s.tokens M').totalSupply) →
      (∀ M' c' q', transfers M' c' q' log = if M' = M ∧ c' = c ∧ q' = q then [.initiated u a] else []) →
      (∀ M', received M' log = 0 ∧ delivered M' log = 0 ∧ burnt M' log = 0) → Effect H s s' log
  | complete (M : Pubkey) (c : Bytes) (q : UInt64) (p : PendingTransfer) (r : GMPCallResult) :
      s.pending (M, c, q) = some p → s.results (c, q) = some r → ¬r.status.Refunds H →
      s'.pending = Function.update s.pending (M, c, q) none →
      (∀ M', (s'.tokens M').totalSupply = (s.tokens M').totalSupply) →
      (∀ M' c' q', transfers M' c' q' log = if M' = M ∧ c' = c ∧ q' = q then [.completed p.sender p.amount] else []) →
      (∀ M', received M' log = 0 ∧ delivered M' log = (if M' = M then p.amount else 0) ∧ burnt M' log = 0) →
      Effect H s s' log
  | refund (M : Pubkey) (c : Bytes) (q : UInt64) (p : PendingTransfer) (r : GMPCallResult) :
      s.pending (M, c, q) = some p → s.results (c, q) = some r → r.status.Refunds H →
      s'.pending = Function.update s.pending (M, c, q) none →
      (∀ M', (s'.tokens M').totalSupply = (s.tokens M').totalSupply + (if M' = M then p.amount else 0)) →
      (∀ M' c' q', transfers M' c' q' log = if M' = M ∧ c' = c ∧ q' = q then [.refunded p.sender p.amount] else []) →
      (∀ M', received M' log = 0 ∧ delivered M' log = 0 ∧ burnt M' log = 0) → Effect H s s' log

/-- A transaction that leaves the transfers and the tokens, and logs nothing the accounting sees. -/
theorem Effect.of_quiet {H : Hashes} {s s' : State} {log : List Event} (hp : s'.pending = s.pending)
    (ht : s'.tokens = s.tokens) (h : ∀ e ∈ log, e.Quiet) : Effect H s s' log :=
  .quiet hp (fun M => by rw [ht, burnt_eq_zero_of_quiet h, received_eq_zero_of_quiet h])
    (transfers_eq_nil_of_quiet h) (delivered_eq_zero_of_quiet h)

/-- The router's commitment accounts, once created, stay. -/
def CommitmentsKept (s s' : State) : Prop :=
  ∀ k, ((Ics26Router.view s.router).commitment k).isSome → ((Ics26Router.view s'.router).commitment k).isSome

section Results

variable (H : Hashes) (ids : Programs)

/-- What a transaction does to the GMP app's result accounts, with the callbacks it logs: under each
key, nothing and no callback; or, where there was no result, the result of the one callback. -/
def ResultsStep (results results' : SolanaGmp.Results) (log : List Event) : Prop :=
  ∀ c q, (results' (c, q) = results (c, q) ∧ callbacks ids.gmp c q log = []) ∨
    (results (c, q) = none ∧ ∃ r cb, results' (c, q) = some r ∧ r.sourceClient = c ∧ r.sequence = q ∧
      callbacks ids.gmp c q log = [cb] ∧ cb.Records H r.status)

variable {H ids} {results results' results'' : SolanaGmp.Results} {log log' : List Event}

theorem ResultsStep.refl (h : ∀ c q, callbacks ids.gmp c q log = []) : ResultsStep H ids results results log :=
  fun c q => .inl ⟨rfl, h c q⟩

theorem ResultsStep.trans (h₁ : ResultsStep H ids results results' log)
    (h₂ : ResultsStep H ids results' results'' log') : ResultsStep H ids results results'' (log ++ log') := by
  intro c q
  rcases h₁ c q with ⟨he₁, hn₁⟩ | ⟨hnone₁, r, cb, hr, hsc, hsq, hcb, hrec⟩ <;>
    rcases h₂ c q with ⟨he₂, hn₂⟩ | ⟨hnone₂, r', cb', hr', hsc', hsq', hcb', hrec'⟩
  · exact .inl ⟨he₂.trans he₁, by rw [callbacks_append, hn₁, hn₂]; rfl⟩
  · exact .inr ⟨he₁ ▸ hnone₂, r', cb', hr', hsc', hsq', by rw [callbacks_append, hn₁, hcb']; rfl, hrec'⟩
  · exact .inr ⟨hnone₁, r, cb, he₂.trans hr, hsc, hsq, by rw [callbacks_append, hcb, hn₂]; rfl, hrec⟩
  · -- a second result where the first was created cannot be
    rw [hr] at hnone₂
    cases hnone₂

theorem ResultsStep.some_eq (h : ResultsStep H ids results results' log) {c : Bytes} {q : UInt64}
    {r : GMPCallResult} (hr : results (c, q) = some r) : results' (c, q) = some r ∧ callbacks ids.gmp c q log = [] := by
  rcases h c q with ⟨he, hn⟩ | ⟨hnone, -⟩
  · exact ⟨he.trans hr, hn⟩
  · rw [hr] at hnone
    cases hnone

end Results

/-- All that a transaction does which the invariant reads. -/
structure Transition (H : Hashes) (ids : Programs) (s s' : State) (log : List Event) : Prop where
  commitments : CommitmentsKept s s'
  results : ResultsStep H ids s.results s'.results log
  effect : Effect H s s' log

/-! ## The transactions' transitions -/

section Transitions

variable {TX : TransferExternals} {SX : SolanaGmp.SendExternals} {X : SolanaGmp.Externals} {H : Hashes}
  {ids : Programs} {s s' : State} {evs : List Event}

/-- A router instruction keeps its commitment accounts. -/
theorem commitment_isSome_of_effect {v v' : Ics26Router.PacketView} {T : List (Lifecycle.PacketEvent Packet)}
    (he : Ics26Router.Effect H v v' T) {k : Bytes × UInt64} (hk : (v.commitment k).isSome) :
    (v'.commitment k).isSome := by
  cases he with
  | quiet hq => rwa [hq.1]
  | send P _ hv =>
    subst hv
    rw [Ics26Router.PacketView.setCommitment_commitment, Function.update_apply]
    split_ifs
    · rfl
    · exact hk
  | recv P r ackCommitment _ _ hv =>
    subst hv
    exact hk
  | resolve P _ hv =>
    subst hv
    rw [Ics26Router.PacketView.setCommitment_commitment, Function.update_apply]
    split_ifs
    · rfl
    · exact hk

theorem commitmentsKept_of_eq (h : s'.router = s.router) : CommitmentsKept s s' := by
  intro k hk
  rwa [h]

/-- The GMP app's part in one callback of the router: the result of its packet, where the callback
is to the GMP app, and its events. -/
theorem gmpCallback_spec {results results' : SolanaGmp.Results} {gmpPaused : Bool} {unixTimestamp : ℤ}
    {e : Ics26Router.Event} (h : gmpCallback X H ids results gmpPaused unixTimestamp e = .ok (results', evs)) :
    ResultsStep H ids results results' [.router e] ∧ ∀ e' ∈ evs, ∃ g, e' = .gmp g := by
  cases e with
  | onAcknowledgementPacket app P payload acknowledgement =>
    simp only [gmpCallback] at h
    by_cases happ : app = ids.gmp
    · rw [if_pos happ] at h
      simp only [bind_eq_ok, mapError_eq_ok, pure_eq_ok, Prod.mk.injEq] at h
      obtain ⟨⟨r, g⟩, hack, rfl, rfl⟩ := h
      obtain ⟨hfree, hsc, hsq, commitment, hc, hst⟩ := SolanaGmp.onAcknowledgementPacket_eq_ok hack
      refine ⟨fun c q => ?_, by simp⟩
      by_cases hk : srcKey P = (c, q)
      · -- the callback's own key: its result is created
        simp only [srcKey, Prod.mk.injEq] at hk
        obtain ⟨rfl, rfl⟩ := hk
        refine .inr ⟨hfree, r, .acknowledged acknowledgement, by simp, hsc, hsq, ?_, ?_⟩
        · simp [callbacks, Event.callbackAt, happ, srcKey]
        · rw [hst]
          exact .acknowledged acknowledgement commitment hc
      · refine .inl ⟨Function.update_of_ne (fun h => hk (by rw [srcKey, h])) _ _, ?_⟩
        simp [callbacks, Event.callbackAt, hk]
    · rw [if_neg happ, pure_eq_ok, Prod.mk.injEq] at h
      obtain ⟨rfl, rfl⟩ := h
      exact ⟨ResultsStep.refl fun c q => by simp [callbacks, Event.callbackAt, happ], by simp⟩
  | onTimeoutPacket app P payload =>
    simp only [gmpCallback] at h
    by_cases happ : app = ids.gmp
    · rw [if_pos happ] at h
      simp only [bind_eq_ok, mapError_eq_ok, pure_eq_ok, Prod.mk.injEq] at h
      obtain ⟨⟨r, g⟩, htimeout, rfl, rfl⟩ := h
      obtain ⟨hfree, hsc, hsq, hst⟩ := SolanaGmp.onTimeoutPacket_eq_ok htimeout
      refine ⟨fun c q => ?_, by simp⟩
      by_cases hk : srcKey P = (c, q)
      · simp only [srcKey, Prod.mk.injEq] at hk
        obtain ⟨rfl, rfl⟩ := hk
        refine .inr ⟨hfree, r, .timedOut, by simp, hsc, hsq, ?_, ?_⟩
        · simp [callbacks, Event.callbackAt, happ, srcKey]
        · rw [hst]
          exact .timedOut
      · refine .inl ⟨Function.update_of_ne (fun h => hk (by rw [srcKey, h])) _ _, ?_⟩
        simp [callbacks, Event.callbackAt, hk]
    · rw [if_neg happ, pure_eq_ok, Prod.mk.injEq] at h
      obtain ⟨rfl, rfl⟩ := h
      exact ⟨ResultsStep.refl fun c q => by simp [callbacks, Event.callbackAt, happ], by simp⟩
  | _ =>
    simp only [gmpCallback, pure_eq_ok, Prod.mk.injEq] at h
    obtain ⟨rfl, rfl⟩ := h
    exact ⟨ResultsStep.refl fun c q => rfl, by simp⟩

/-- The GMP app's part in the callbacks of a router instruction, one after the other. -/
theorem gmpCallbacks_spec {results results' : SolanaGmp.Results} {gmpPaused : Bool} {unixTimestamp : ℤ}
    {es : List Ics26Router.Event} (h : gmpCallbacks X H ids results gmpPaused unixTimestamp es = .ok (results', evs)) :
    ResultsStep H ids results results' (es.map .router) ∧ ∀ e' ∈ evs, ∃ g, e' = .gmp g := by
  induction es generalizing results evs with
  | nil =>
    simp only [gmpCallbacks, pure_eq_ok, Prod.mk.injEq] at h
    obtain ⟨rfl, rfl⟩ := h
    exact ⟨ResultsStep.refl fun _ _ => rfl, by simp⟩
  | cons e es ih =>
    simp only [gmpCallbacks, bind_eq_ok, pure_eq_ok, Prod.mk.injEq] at h
    obtain ⟨⟨results₁, evs₁⟩, h₁, ⟨results₂, evs₂⟩, h₂, rfl, rfl⟩ := h
    obtain ⟨hr₁, hg₁⟩ := gmpCallback_spec h₁
    obtain ⟨hr₂, hg₂⟩ := ih h₂
    refine ⟨hr₁.trans hr₂, fun e' he' => ?_⟩
    rcases List.mem_append.mp he' with he' | he'
    · exact hg₁ e' he'
    · exact hg₂ e' he'

/-- The GMP app's events record no callback and nothing the accounting sees. -/
theorem gmp_entries {log : List Event} (h : ∀ e ∈ log, ∃ g, e = .gmp g) :
    (∀ c q, callbacks ids.gmp c q log = []) ∧ ∀ e ∈ log, e.Quiet := by
  refine ⟨callbacks_eq_nil_of_not_router fun e he r => ?_, fun e he => ?_⟩
  · obtain ⟨g, rfl⟩ := h e he
    exact Event.noConfusion
  · obtain ⟨g, rfl⟩ := h e he
    exact quiet_gmp g

/-- **A router instruction**, the GMP app recording the results of the callbacks to it. -/
theorem routerTx_transition {i : Ics26Router.Instruction} {gmpPaused : Bool} {unixTimestamp : ℤ}
    (h : routerTx X H ids s i gmpPaused unixTimestamp = .ok (s', evs)) : Transition H ids s s' evs := by
  simp only [routerTx, bind_eq_ok, mapError_eq_ok, pure_eq_ok, Prod.mk.injEq] at h
  obtain ⟨⟨router, routerEvents⟩, hstep, ⟨results, gevs⟩, hcb, rfl, rfl⟩ := h
  obtain ⟨hres, hg⟩ := gmpCallbacks_spec hcb
  obtain ⟨hnil, hquiet⟩ := gmp_entries hg
  refine ⟨fun k hk => commitment_isSome_of_effect (Ics26Router.step_effect hstep) hk,
    hres.trans (ResultsStep.refl hnil), Effect.of_quiet rfl rfl fun e he => ?_⟩
  rcases List.mem_append.mp he with he | he
  · exact quiet_map_router routerEvents e he
  · exact hquiet e he

/-- A send of the GMP app creates the commitment account of its key only. -/
theorem commitmentsKept_of_send {router : Ics26Router.Accounts} {k : Bytes × UInt64}
    (hsome : ((Ics26Router.view router).commitment k).isSome)
    (hother : ∀ k', k' ≠ k → (Ics26Router.view router).commitment k' = (Ics26Router.view s.router).commitment k') :
    CommitmentsKept s { s with router } := by
  intro k' hk'
  by_cases hkk : k' = k
  · subst hkk
    exact hsome
  · dsimp only
    rwa [hother k' hkk]

/-- **`send_call` of the GMP app.** -/
theorem gmpSendCall_transition {env : SolanaGmp.CallEnv} {sender : Pubkey} {msg : SolanaGmp.SendCallMsg}
    {status : Option Ics26Router.ClientStatus} (h : gmpSendCall SX H ids s env sender msg status = .ok (s', evs)) :
    Transition H ids s s' evs := by
  simp only [gmpSendCall, bind_eq_ok, mapError_eq_ok, pure_eq_ok, Prod.mk.injEq] at h
  obtain ⟨⟨router, routerEvents, e, sequence⟩, hsend, rfl, rfl⟩ := h
  obtain ⟨-, -, hsome, hother, P, rfl⟩ := SolanaGmp.sendCallInner_eq_ok (SolanaGmp.sendCall_eq_ok hsend)
  refine ⟨commitmentsKept_of_send hsome hother, ResultsStep.refl fun c q => ?_,
    Effect.of_quiet rfl rfl fun e' he' => ?_⟩
  · simp [callbacks, Event.callbackAt]
  · simp only [List.map_cons, List.map_nil, List.cons_append, List.nil_append, List.mem_cons,
      List.not_mem_nil, or_false] at he'
    rcases he' with rfl | rfl
    · exact quiet_router _
    · exact quiet_gmp e

/-- An instruction of the IFT program on a mint state that mints for the other side or for the
admin, or sets a limit. -/
theorem onMintState_transition {mint : Pubkey}
    {f : IFTAppMintState → Except SolanaIft.Error (IFTAppMintState × List Output)}
    (hf : ∀ m m' outs, f m = .ok (m', outs) → MintOutputs outs) (h : onMintState s mint f = .ok (s', evs)) :
    Transition H ids s s' evs := by
  simp only [onMintState, bind_eq_ok, expect_eq_ok, mapError_eq_ok, pure_eq_ok, Prod.mk.injEq] at h
  obtain ⟨m, -, ⟨m', outs⟩, hm, rfl, rfl⟩ := h
  obtain ⟨hminted, hsteps⟩ := hf m m' outs hm
  have hburnt : ∀ M, burnt M (outs.map .ift) = 0 := fun M =>
    sum_eq_zero_of_forall fun e he => by
      obtain ⟨o, -, rfl⟩ := List.mem_map.mp he
      rfl
  refine ⟨commitmentsKept_of_eq rfl, ResultsStep.refl fun c q => callbacks_eq_nil_of_not_router (fun e he r => ?_) c q,
    .quiet rfl (fun M => ?_) (fun M c q => ?_) (fun M => ?_)⟩
  · obtain ⟨o, -, rfl⟩ := List.mem_map.mp he
    exact Event.noConfusion
  · rw [applyOutputs_totalSupply, hburnt, hminted]
    rfl
  · refine List.filterMap_eq_nil_iff.mpr fun e he => ?_
    obtain ⟨o, ho, rfl⟩ := List.mem_map.mp he
    exact (hsteps o ho).1 M c q
  · refine sum_eq_zero_of_forall fun e he => ?_
    obtain ⟨o, ho, rfl⟩ := List.mem_map.mp he
    exact (hsteps o ho).2 M

theorem totalSupply_update (tokens : Pubkey → Token Pubkey) (mint : Pubkey) (t : Token Pubkey) (M : Pubkey) :
    (Function.update tokens mint t M).totalSupply = if M = mint then t.totalSupply else (tokens M).totalSupply := by
  rw [Function.update_apply]
  split_ifs <;> rfl

/-- **A transfer out**: the amount is burnt from the sender, and the transfer starts under the mint,
the client and the sequence whose commitment account the router creates. -/
theorem iftTransfer_transition {env : Env} {app : IFTAppState} {mint : Pubkey} {bridge : IFTBridge}
    {chainOptions : ChainOptions} {senderTokenAccount : TokenAccount} {sender : Pubkey} {gmpPaused : Bool}
    {status : Option Ics26Router.ClientStatus} {msg : IFTTransferMsg}
    (h : iftTransfer TX SX H ids s env app mint bridge chainOptions senderTokenAccount sender gmpPaused status msg =
      .ok (s', evs)) : Transition H ids s s' evs := by
  simp only [iftTransfer, bind_eq_ok, require_eq_ok, exists_const, expect_eq_ok, mapError_eq_ok,
    pure_eq_ok, Prod.mk.injEq] at h
  obtain ⟨-, m, -, -, -, -, -, -, hfree, hpos, -, -, -, timeout, -, token, hburn, payload, -,
    ⟨router, routerEvents, gmpEvent, sequence⟩, hsend, rfl, rfl⟩ := h
  obtain ⟨-, hinner⟩ := SolanaGmp.sendCallCpi_eq_ok hsend
  obtain ⟨rfl, hnone, hsome, hother, P, rfl⟩ := SolanaGmp.sendCallInner_eq_ok hinner
  obtain ⟨-, hsupply, -⟩ := Token.burn_eq_some.mp hburn
  -- the only entry the accounting sees is the start of the transfer
  have hsteps : ∀ M c q, transfers M c q (Event.burn m.mint sender msg.amount ::
      [Ics26Router.Event.SendPacketEvent msg.clientId msg.sequence P timeout].map Event.router ++
      [.gmp gmpEvent, .IFTTransferInitiated m.mint msg.clientId msg.sequence sender msg.receiver msg.amount timeout]) =
      if M = m.mint ∧ c = msg.clientId ∧ q = msg.sequence then [.initiated sender msg.amount] else [] := by
    intro M c q
    by_cases hk : M = m.mint ∧ c = msg.clientId ∧ q = msg.sequence <;> simp [transfers, List.filterMap_cons, Event.stepAt, hk]
  refine ⟨commitmentsKept_of_send hsome hother, ResultsStep.refl fun c q => ?_,
    .start m.mint msg.clientId msg.sequence sender msg.amount hnone hsome hpos hfree rfl (fun M => ?_) hsteps
      fun M => ⟨?_, ?_, ?_⟩⟩
  · simp [callbacks, Event.callbackAt]
  · rw [totalSupply_update]
    split_ifs with hM
    · subst hM
      omega
    · rfl
  · simp [received, Event.received]
  · simp [delivered, Event.delivered]
  · simp [burnt, Event.burnt]

/-- **`finalize_transfer`**: the transfer in flight under the mint, the client and the sequence ends
on the GMP app's result for the client and the sequence, refunded to its sender when the result
calls for it and completed otherwise. -/
theorem finalizeTransfer_transition {env : Env} {app : IFTAppState} {mint : Pubkey}
    {senderTokenAccount : TokenAccount} {clientId : Bytes} {sequence : UInt64}
    (h : finalizeTransfer H ids s env app mint senderTokenAccount clientId sequence = .ok (s', evs)) :
    Transition H ids s s' evs := by
  simp only [finalizeTransfer, bind_eq_ok, expect_eq_ok, mapError_eq_ok, pure_eq_ok, Prod.mk.injEq] at h
  obtain ⟨m, -, p, hp, r, hr, ⟨m', outs⟩, hfin, rfl, rfl⟩ := h
  obtain ⟨-, rfl, rfl, -, -, -, hcase⟩ := finalizeTransfer_eq_ok hfin
  have hres : ResultsStep H ids s.results s.results (outs.map .ift) :=
    ResultsStep.refl fun c q => callbacks_eq_nil_of_not_router (fun e he r => by
      obtain ⟨o, -, rfl⟩ := List.mem_map.mp he
      exact Event.noConfusion) c q
  refine ⟨commitmentsKept_of_eq rfl, hres, ?_⟩
  rcases hcase with ⟨hrefunds, reason, rfl⟩ | ⟨hnot, rfl⟩
  · -- the refund mints the amount back to the sender
    refine .refund m.mint p.clientId p.sequence p r hp hr hrefunds rfl (fun M => ?_) (fun M c q => ?_)
      fun M => ⟨?_, ?_, ?_⟩
    · rw [applyOutputs_totalSupply]
      by_cases hM : M = m.mint <;> simp [Output.mintedOf, hM]
    · by_cases hk : M = m.mint ∧ c = p.clientId ∧ q = p.sequence <;> simp [transfers, List.filterMap_cons, Event.stepAt, hk]
    · simp [received, Event.received]
    · simp [delivered, Event.delivered]
    · simp [burnt, Event.burnt]
  · refine .complete m.mint p.clientId p.sequence p r hp hr hnot rfl (fun M => ?_) (fun M c q => ?_)
      fun M => ⟨?_, ?_, ?_⟩
    · rw [applyOutputs_totalSupply]
      simp [Output.mintedOf]
    · by_cases hk : M = m.mint ∧ c = p.clientId ∧ q = p.sequence <;> simp [transfers, Event.stepAt, hk]
    · simp [received, Event.received]
    · by_cases hM : M = m.mint <;> simp [delivered, Event.delivered, hM]
    · simp [burnt, Event.burnt]

/-- A holder's transfer and burn of the token program: the supply stays, or falls by what is burnt. -/
theorem tokenTransfer_transition {mint src dst : Pubkey} {amount : ℕ}
    (h : step TX SX X H ids s (.tokenTransfer mint src dst amount) = .ok (s', evs)) : Transition H ids s s' evs := by
  simp only [step, bind_eq_ok, expect_eq_ok, pure_eq_ok, Prod.mk.injEq] at h
  obtain ⟨token, htransfer, rfl, rfl⟩ := h
  obtain ⟨-, hsupply, -⟩ := Token.transfer_eq_some.mp htransfer
  refine ⟨commitmentsKept_of_eq rfl, ResultsStep.refl fun c q => rfl, .quiet rfl (fun M => ?_)
    (fun M c q => rfl) (fun M => rfl)⟩
  rw [totalSupply_update]
  split_ifs with hM
  · subst hM
    simp [burnt, received, Event.burnt, Event.received, hsupply]
  · simp [burnt, received, Event.burnt, Event.received]

theorem tokenBurn_transition {mint owner : Pubkey} {amount : ℕ}
    (h : step TX SX X H ids s (.tokenBurn mint owner amount) = .ok (s', evs)) : Transition H ids s s' evs := by
  simp only [step, bind_eq_ok, expect_eq_ok, pure_eq_ok, Prod.mk.injEq] at h
  obtain ⟨token, hburn, rfl, rfl⟩ := h
  obtain ⟨-, hsupply, -⟩ := Token.burn_eq_some.mp hburn
  refine ⟨commitmentsKept_of_eq rfl, ResultsStep.refl fun c q => rfl, .quiet rfl (fun M => ?_)
    (fun M c q => rfl) (fun M => rfl)⟩
  rw [totalSupply_update]
  split_ifs with hM
  · subst hM
    simp [burnt, received, Event.burnt, Event.received, hsupply]
  · simp [burnt, received, Event.burnt, Event.received, hM]

/-- **Every transaction has one of the transitions.** -/
theorem step_transition {tx : Tx} (h : step TX SX X H ids s tx = .ok (s', evs)) : Transition H ids s s' evs := by
  cases tx with
  | router i gmpPaused unixTimestamp => exact routerTx_transition h
  | gmpSendCall env sender msg status => exact gmpSendCall_transition h
  | iftTransfer env app mint bridge chainOptions senderTokenAccount sender gmpPaused status msg =>
    exact iftTransfer_transition h
  | finalizeTransfer env app mint senderTokenAccount clientId sequence => exact finalizeTransfer_transition h
  | iftMint mint env app bridge receiverOwner gmpAccount msg =>
    exact onMintState_transition (fun _ _ _ hf => iftMint_mintOutputs hf) h
  | adminMint mint env app receiverOwner admin msg =>
    exact onMintState_transition (fun _ _ _ hf => adminMint_mintOutputs hf) h
  | setMintRateLimit mint env app admin dailyMintLimit =>
    exact onMintState_transition (fun _ _ _ hf => setMintRateLimit_mintOutputs hf) h
  | tokenTransfer mint src dst amount => exact tokenTransfer_transition h
  | tokenBurn mint owner amount => exact tokenBurn_transition h

end Transitions

/-! ## The invariant -/

/-- The GMP app's results and the router's callbacks to it in the log: under each client and
sequence, no result and no callback, or the result of the one callback. -/
def ResultsLogged (H : Hashes) (ids : Programs) (results : SolanaGmp.Results) (log : List Event) : Prop :=
  ∀ c q, (results (c, q) = none ∧ callbacks ids.gmp c q log = []) ∨
    ∃ r cb, results (c, q) = some r ∧ r.sourceClient = c ∧ r.sequence = q ∧ callbacks ids.gmp c q log = [cb] ∧
      cb.Records H r.status

/-- The steps of a transfer and the router's callbacks for its packet agree: a transfer that ended
did so after the one callback, and was refunded exactly when that callback calls for a refund. -/
def EndsOnCallback (H : Hashes) (steps : List (Pending.Step Pubkey)) (cbs : List Callback) : Prop :=
  ∀ e ∈ steps, e.IsEnd = true → ∃ cb, cbs = [cb] ∧ (e.isRefund = true ↔ cb.Refunds H)

/-- What ties the chain's accounts to the log, for mints whose supply started at `supply₀`. -/
structure Inv (H : Hashes) (ids : Programs) (supply₀ : Pubkey → ℕ) (s : State) (log : List Event) : Prop where
  /-- The record under each key follows the transfer there. -/
  lifecycle : ∀ M c q, Pending.Lifecycle ((s.pending (M, c, q)).map PendingTransfer.record) (transfers M c q log)
  /-- A transfer started where the router holds the commitment account of its packet. -/
  sent : ∀ M c q, transfers M c q log ≠ [] → ((Ics26Router.view s.router).commitment (c, q)).isSome
  unique : ∀ M M' c q, transfers M c q log ≠ [] → transfers M' c q log ≠ [] → M = M'
  results : ResultsLogged H ids s.results log
  /-- A transfer ended on the GMP app's result for its packet. -/
  ended : ∀ M c q e, e ∈ transfers M c q log → e.IsEnd = true →
    ∃ r, s.results (c, q) = some r ∧ (e.isRefund = true ↔ r.status.Refunds H)
  finite : ∀ M, (Function.support (s.pendingAmount M)).Finite
  /-- Each mint's holders, its transfers in flight, those delivered and what holders burnt make up
  its start and what was minted. -/
  supply : ∀ M, (s.tokens M).totalSupply + ∑ᶠ k, s.pendingAmount M k + delivered M log + burnt M log =
    supply₀ M + received M log

section Inv

variable {H : Hashes} {ids : Programs} {supply₀ : Pubkey → ℕ} {s s' : State} {log evs : List Event}

/-- The status the GMP app records for a callback calls for a refund exactly when the callback does. -/
theorem Callback.Records.refunds_iff {cb : Callback} {status : CallResultStatus} (h : cb.Records H status) :
    status.Refunds H ↔ cb.Refunds H := by
  cases h with
  | timedOut => simp [CallResultStatus.Refunds, Callback.Refunds]
  | acknowledged acknowledgement commitment hc =>
    rw [Callback.Refunds, hc, packetAcknowledgementCommitmentBytes32_universalErrorAck]
    simp [CallResultStatus.Refunds]

theorem ResultsLogged.step {results results' : SolanaGmp.Results} (h : ResultsLogged H ids results log)
    (hs : ResultsStep H ids results results' evs) : ResultsLogged H ids results' (log ++ evs) := by
  intro c q
  rcases hs c q with ⟨he, hn⟩ | ⟨hnone, r, cb, hr, hsc, hsq, hcb, hrec⟩
  · rw [he, callbacks_append, hn, List.append_nil]
    exact h c q
  · -- the one callback comes where there was no result, and so no callback before
    rcases h c q with ⟨-, hold⟩ | ⟨r', -, hr', -⟩
    · exact .inr ⟨r, cb, hr, hsc, hsq, by rw [callbacks_append, hold, hcb]; rfl, hrec⟩
    · rw [hr'] at hnone
      cases hnone

theorem State.pendingAmount_of_update {M : Pubkey} {c : Bytes} {q : UInt64} {x : Option PendingTransfer}
    (h : s'.pending = Function.update s.pending (M, c, q) x) (M' : Pubkey) :
    s'.pendingAmount M' = if M' = M then Function.update (s.pendingAmount M) (c, q) ((x.map PendingTransfer.amount).getD 0)
      else s.pendingAmount M' := by
  funext ⟨c', q'⟩
  by_cases hM : M' = M <;> by_cases hk : c' = c ∧ q' = q <;>
    simp [State.pendingAmount, h, hM, hk]

theorem State.pendingAmount_congr (h : s'.pending = s.pending) : s'.pendingAmount = s.pendingAmount := by
  funext M k
  simp only [State.pendingAmount, h]

theorem init_inv (router : Ics26Router.Accounts) (mints : Pubkey → Option IFTAppMintState)
    (tokens : Pubkey → Token Pubkey) : Inv H ids (fun M => (tokens M).totalSupply) (State.init router mints tokens) [] where
  lifecycle _ _ _ := .idle
  sent _ _ _ h := absurd rfl h
  unique _ _ _ _ h := absurd rfl h
  results _ _ := .inl ⟨rfl, rfl⟩
  ended _ _ _ _ he := absurd he List.not_mem_nil
  finite M := by
    have : (State.init router mints tokens).pendingAmount M = 0 := rfl
    rw [this, Function.support_zero]
    exact Set.finite_empty
  supply M := by
    have : (State.init router mints tokens).pendingAmount M = 0 := rfl
    rw [this]
    simp [delivered, burnt, received, State.init]

/-- An end recorded before a transaction stays on the result it ended on. -/
theorem Inv.ended_of_old (hinv : Inv H ids supply₀ s log) (hres : ResultsStep H ids s.results s'.results evs)
    {M : Pubkey} {c : Bytes} {q : UInt64} {e : Pending.Step Pubkey} (he : e ∈ transfers M c q log)
    (hend : e.IsEnd = true) : ∃ r, s'.results (c, q) = some r ∧ (e.isRefund = true ↔ r.status.Refunds H) := by
  obtain ⟨r, hr, hiff⟩ := hinv.ended M c q e he hend
  exact ⟨r, (hres.some_eq hr).1, hiff⟩

/-- A transaction that starts and ends nothing keeps the invariant. -/
theorem Inv.quiet (hinv : Inv H ids supply₀ s log) (ht : Transition H ids s s' evs) (hp : s'.pending = s.pending)
    (hs : ∀ M, (s'.tokens M).totalSupply + burnt M evs = (s.tokens M).totalSupply + received M evs)
    (hnil : ∀ M c q, transfers M c q evs = []) (hd : ∀ M, delivered M evs = 0) : Inv H ids supply₀ s' (log ++ evs) := by
  have hsteps : ∀ M c q, transfers M c q (log ++ evs) = transfers M c q log := fun M c q => by
    rw [transfers_append, hnil, List.append_nil]
  have hamt := State.pendingAmount_congr hp
  refine ⟨fun M c q => ?_, fun M c q h => ?_, fun M M' c q h h' => ?_, hinv.results.step ht.results,
    fun M c q e he hend => ?_, fun M => hamt ▸ hinv.finite M, fun M => ?_⟩
  · rw [hsteps, hp]
    exact hinv.lifecycle M c q
  · rw [hsteps] at h
    exact ht.commitments _ (hinv.sent M c q h)
  · rw [hsteps] at h h'
    exact hinv.unique M M' c q h h'
  · rw [hsteps] at he
    exact hinv.ended_of_old ht.results he hend
  · have hold := hinv.supply M
    have hnew := hs M
    rw [hamt, delivered_append, burnt_append, received_append, hd]
    omega

/-- The start of a transfer under a key whose commitment account the router just created keeps the
invariant: nothing happened under its client and sequence before, for any mint. -/
theorem Inv.start (hinv : Inv H ids supply₀ s log) (ht : Transition H ids s s' evs) {M : Pubkey} {c : Bytes}
    {q : UInt64} {u : Pubkey} {a : ℕ} (hnone : (Ics26Router.view s.router).commitment (c, q) = none)
    (hsome : ((Ics26Router.view s'.router).commitment (c, q)).isSome) (ha : 0 < a) (hfree : s.pending (M, c, q) = none)
    (hp : s'.pending = Function.update s.pending (M, c, q) (some ⟨M, c, q, u, a⟩))
    (hs : ∀ M', (s'.tokens M').totalSupply + (if M' = M then a else 0) = (s.tokens M').totalSupply)
    (hsteps : ∀ M' c' q', transfers M' c' q' evs = if M' = M ∧ c' = c ∧ q' = q then [.initiated u a] else [])
    (hzero : ∀ M', received M' evs = 0 ∧ delivered M' evs = 0 ∧ burnt M' evs = 0) :
    Inv H ids supply₀ s' (log ++ evs) := by
  have hfresh : ∀ M', transfers M' c q log = [] := fun M' => by
    by_contra h
    have hsent := hinv.sent M' c q h
    rw [hnone] at hsent
    cases hsent
  -- under the new key's client and sequence only the new key has a step
  have hkey : ∀ M', transfers M' c q (log ++ evs) ≠ [] → M' = M := fun M' h => by
    rw [transfers_append, hfresh, List.nil_append, hsteps] at h
    by_contra hM
    rw [if_neg fun hk => hM hk.1] at h
    exact h rfl
  have hother : ∀ M' c' q', ¬(M' = M ∧ c' = c ∧ q' = q) → transfers M' c' q' (log ++ evs) = transfers M' c' q' log :=
    fun M' c' q' hk => by rw [transfers_append, hsteps, if_neg hk, List.append_nil]
  refine ⟨fun M' c' q' => ?_, fun M' c' q' h => ?_, fun M₁ M₂ c' q' h₁ h₂ => ?_, hinv.results.step ht.results,
    fun M' c' q' e he hend => ?_, fun M' => ?_, fun M' => ?_⟩
  · rw [transfers_append, hsteps, hp, Function.update_apply]
    simp only [Prod.mk.injEq]
    split_ifs with hk
    · obtain ⟨rfl, rfl, rfl⟩ := hk
      exact (hinv.lifecycle M' c' q').start (hfresh M') ha
    · rw [List.append_nil]
      exact hinv.lifecycle M' c' q'
  · by_cases hk : M' = M ∧ c' = c ∧ q' = q
    · obtain ⟨rfl, rfl, rfl⟩ := hk
      exact hsome
    · rw [hother M' c' q' hk] at h
      exact ht.commitments _ (hinv.sent M' c' q' h)
  · by_cases hcq : c' = c ∧ q' = q
    · obtain ⟨rfl, rfl⟩ := hcq
      exact (hkey M₁ h₁).trans (hkey M₂ h₂).symm
    · rw [hother M₁ c' q' fun hk => hcq hk.2] at h₁
      rw [hother M₂ c' q' fun hk => hcq hk.2] at h₂
      exact hinv.unique M₁ M₂ c' q' h₁ h₂
  · -- the step of the new transfer is its start, which ends nothing
    rw [transfers_append, hsteps] at he
    rcases List.mem_append.mp he with hold | hnew
    · exact hinv.ended_of_old ht.results hold hend
    · split_ifs at hnew
      · rw [List.mem_singleton] at hnew
        subst hnew
        cases hend
      · cases hnew
  · rw [State.pendingAmount_of_update hp]
    split_ifs
    · exact support_update_finite (hinv.finite M) _ _
    · exact hinv.finite M'
  · have hold := hinv.supply M'
    have hnew := hs M'
    obtain ⟨hr, hd, hb⟩ := hzero M'
    rw [State.pendingAmount_of_update hp, delivered_append, burnt_append, received_append, hr, hd, hb]
    split_ifs at hnew ⊢ with hM
    · -- the amount leaves the holders for the transfer in flight
      subst hM
      have hsum := finsum_update_add (hinv.finite M') (c, q) a
      have h0 : s.pendingAmount M' (c, q) = 0 := by simp [State.pendingAmount, hfree]
      simp only [Option.map_some, Option.getD_some] at hsum ⊢
      omega
    · omega

/-- The end of the transfer in flight under a key, with the step `e`, completed or refunded as the GMP
app's result for its packet calls for, keeps the invariant. -/
theorem Inv.finish (hinv : Inv H ids supply₀ s log) (ht : Transition H ids s s' evs) {M : Pubkey} {c : Bytes}
    {q : UInt64} {p : PendingTransfer} {r : GMPCallResult} (hpend : s.pending (M, c, q) = some p)
    (hr : s.results (c, q) = some r) {e : Pending.Step Pubkey}
    (hend : ∀ steps, Pending.Lifecycle (some (p.sender, p.amount)) steps → Pending.Lifecycle none (steps ++ [e]))
    (hIsEnd : e.IsEnd = true) (hiff : e.isRefund = true ↔ r.status.Refunds H)
    (hp : s'.pending = Function.update s.pending (M, c, q) none)
    (hs : ∀ M', (s'.tokens M').totalSupply + delivered M' evs = (s.tokens M').totalSupply + (if M' = M then p.amount else 0))
    (hsteps : ∀ M' c' q', transfers M' c' q' evs = if M' = M ∧ c' = c ∧ q' = q then [e] else [])
    (hzero : ∀ M', received M' evs = 0 ∧ burnt M' evs = 0) :
    Inv H ids supply₀ s' (log ++ evs) := by
  have hlive : Pending.Lifecycle (some (p.sender, p.amount)) (transfers M c q log) := by
    have := hinv.lifecycle M c q
    rwa [hpend] at this
  -- the transfer ended was started, so no key gains its first step
  have hne : ∀ M' c' q', transfers M' c' q' (log ++ evs) ≠ [] → transfers M' c' q' log ≠ [] := fun M' c' q' h => by
    rw [transfers_append, hsteps] at h
    split_ifs at h with hk
    · obtain ⟨rfl, rfl, rfl⟩ := hk
      rw [hlive.eq_of_some.1]
      exact List.cons_ne_nil _ _
    · rwa [List.append_nil] at h
  refine ⟨fun M' c' q' => ?_, fun M' c' q' h => ht.commitments _ (hinv.sent M' c' q' (hne M' c' q' h)),
    fun M₁ M₂ c' q' h₁ h₂ => hinv.unique M₁ M₂ c' q' (hne M₁ c' q' h₁) (hne M₂ c' q' h₂),
    hinv.results.step ht.results, fun M' c' q' e' he hend' => ?_, fun M' => ?_, fun M' => ?_⟩
  · rw [transfers_append, hsteps, hp, Function.update_apply]
    simp only [Prod.mk.injEq]
    split_ifs with hk
    · obtain ⟨rfl, rfl, rfl⟩ := hk
      exact hend _ hlive
    · rw [List.append_nil]
      exact hinv.lifecycle M' c' q'
  · rw [transfers_append, hsteps] at he
    rcases List.mem_append.mp he with hold | hnew
    · exact hinv.ended_of_old ht.results hold hend'
    · -- the new end, on the result it read
      split_ifs at hnew with hk
      · obtain ⟨-, rfl, rfl⟩ := hk
        rw [List.mem_singleton] at hnew
        subst hnew
        exact ⟨r, (ht.results.some_eq hr).1, hiff⟩
      · cases hnew
  · rw [State.pendingAmount_of_update hp]
    split_ifs
    · exact support_update_finite (hinv.finite M) _ _
    · exact hinv.finite M'
  · have hold := hinv.supply M'
    have hnew := hs M'
    obtain ⟨hrec, hb⟩ := hzero M'
    rw [State.pendingAmount_of_update hp, delivered_append, burnt_append, received_append, hrec, hb]
    split_ifs at hnew ⊢ with hM
    · -- the amount in flight goes, back to the holders or to the other side
      subst hM
      have hsum := finsum_update_add (hinv.finite M') (c, q) 0
      have hamt : s.pendingAmount M' (c, q) = p.amount := by simp [State.pendingAmount, hpend]
      simp only [Option.map_none, Option.getD_none] at hsum ⊢
      omega
    · omega

/-- **Every transition keeps the invariant.** -/
theorem Inv.transition (hinv : Inv H ids supply₀ s log) (ht : Transition H ids s s' evs) :
    Inv H ids supply₀ s' (log ++ evs) := by
  cases ht.effect with
  | quiet hp hs hnil hd => exact hinv.quiet ht hp hs hnil hd
  | start M c q u a hnone hsome ha hfree hp hs hsteps hzero =>
    exact hinv.start ht hnone hsome ha hfree hp hs hsteps hzero
  | complete M c q p r hpend hr hnot hp hs hsteps hzero =>
    refine hinv.finish ht hpend hr (fun _ h => h.complete) rfl ⟨fun h => (by cases h), fun h => absurd h hnot⟩ hp
      (fun M' => ?_) hsteps fun M' => ⟨(hzero M').1, (hzero M').2.2⟩
    rw [hs M', (hzero M').2.1]
  | refund M c q p r hpend hr hrefunds hp hs hsteps hzero =>
    refine hinv.finish ht hpend hr (fun _ h => h.refund) rfl ⟨fun _ => hrefunds, fun _ => rfl⟩ hp
      (fun M' => ?_) hsteps fun M' => ⟨(hzero M').1, (hzero M').2.2⟩
    rw [hs M', (hzero M').2.1, Nat.add_zero]

end Inv

/-! ## Runs -/

section Runs

variable (TX : TransferExternals) (SX : SolanaGmp.SendExternals) (X : SolanaGmp.Externals) (H : Hashes)
  (ids : Programs)

theorem step_inv {supply₀ : Pubkey → ℕ} {s s' : State} {log evs : List Event} (hinv : Inv H ids supply₀ s log)
    {tx : Tx} (h : step TX SX X H ids s tx = .ok (s', evs)) : Inv H ids supply₀ s' (log ++ evs) :=
  hinv.transition (step_transition h)

/-- The invariant holds after every run from a chain with no result and no pending transfer. -/
theorem run_inv (router : Ics26Router.Accounts) (mints : Pubkey → Option IFTAppMintState)
    (tokens : Pubkey → Token Pubkey) (txs : List Tx) :
    Inv H ids (fun M => (tokens M).totalSupply) (exec (step TX SX X H ids) (State.init router mints tokens, []) txs).1
      (exec (step TX SX X H ids) (State.init router mints tokens, []) txs).2 :=
  exec_induction (step TX SX X H ids) (Inv H ids fun M => (tokens M).totalSupply)
    (fun _ _ _ _ _ hinv h => step_inv TX SX X H ids hinv h) txs _ (init_inv router mints tokens)

/-- **One transfer per key, and its pending account follows it.** After every run, the steps logged
under a mint, a client and a sequence are none, the start of a transfer of a positive amount, or its
start and then its completion or its refund, to the same sender and for the same amount; and the
pending transfer's account holds the sender and the amount exactly while it is in flight. -/
theorem run_pending_lifecycle (router : Ics26Router.Accounts) (mints : Pubkey → Option IFTAppMintState)
    (tokens : Pubkey → Token Pubkey) (txs : List Tx) (M : Pubkey) (c : Bytes) (q : UInt64) :
    Pending.Lifecycle
      (((exec (step TX SX X H ids) (State.init router mints tokens, []) txs).1.pending (M, c, q)).map
        PendingTransfer.record)
      (transfers M c q (exec (step TX SX X H ids) (State.init router mints tokens, []) txs).2) :=
  (run_inv TX SX X H ids router mints tokens txs).lifecycle M c q

/-- **One mint per packet.** After every run, at most one mint has started a transfer under a client
and a sequence: the router's commitment account of the packet is created once. -/
theorem run_one_mint_per_sequence (router : Ics26Router.Accounts) (mints : Pubkey → Option IFTAppMintState)
    (tokens : Pubkey → Token Pubkey) (txs : List Tx) (c : Bytes) (q : UInt64) :
    Set.Subsingleton {M | transfers M c q (exec (step TX SX X H ids) (State.init router mints tokens, []) txs).2 ≠ []} :=
  fun _ hM _ hM' => (run_inv TX SX X H ids router mints tokens txs).unique _ _ c q hM hM'

/-- **A transfer ends on the router's callback for its packet.** After every run, a transfer that
ended did so after the router called the GMP app back once for its client and sequence, and it was
refunded exactly when that callback was a timeout or an acknowledgement with the commitment of the
universal error acknowledgement. -/
theorem run_end_after_callback (router : Ics26Router.Accounts) (mints : Pubkey → Option IFTAppMintState)
    (tokens : Pubkey → Token Pubkey) (txs : List Tx) (M : Pubkey) (c : Bytes) (q : UInt64) :
    EndsOnCallback H (transfers M c q (exec (step TX SX X H ids) (State.init router mints tokens, []) txs).2)
      (callbacks ids.gmp c q (exec (step TX SX X H ids) (State.init router mints tokens, []) txs).2) := by
  have hinv := run_inv TX SX X H ids router mints tokens txs
  intro e he hend
  obtain ⟨r, hr, hiff⟩ := hinv.ended M c q e he hend
  -- the result it ended on is that of the one callback
  rcases hinv.results c q with ⟨hnone, -⟩ | ⟨r', cb, hr', -, -, hcb, hrec⟩
  · rw [hr] at hnone
    cases hnone
  · rw [hr, Option.some.injEq] at hr'
    subst hr'
    exact ⟨cb, hcb, hiff.trans hrec.refunds_iff⟩

/-- **Supply accounting of each mint.** After every run, a mint's supply, plus what is in flight of
it, plus what was delivered to the other side, plus what holders burnt themselves, is its starting
supply plus what was minted from the other side or by the admin. -/
theorem run_mint_supply (router : Ics26Router.Accounts) (mints : Pubkey → Option IFTAppMintState)
    (tokens : Pubkey → Token Pubkey) (txs : List Tx) (M : Pubkey) :
    ((exec (step TX SX X H ids) (State.init router mints tokens, []) txs).1.tokens M).totalSupply +
        ∑ᶠ k, (exec (step TX SX X H ids) (State.init router mints tokens, []) txs).1.pendingAmount M k +
        delivered M (exec (step TX SX X H ids) (State.init router mints tokens, []) txs).2 +
        burnt M (exec (step TX SX X H ids) (State.init router mints tokens, []) txs).2 =
      (tokens M).totalSupply + received M (exec (step TX SX X H ids) (State.init router mints tokens, []) txs).2 :=
  (run_inv TX SX X H ids router mints tokens txs).supply M

end Runs

end Chain

end SolanaIft
