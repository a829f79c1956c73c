/-
# ICS27 GMP on Solana: executing a received packet

The router hands `on_recv_packet` of the GMP program a packet, and the relayer
hands it the accounts: `remaining_accounts[0]` the GMP account, `[1]` the
program to call, `[2..]` that program's accounts. The packet data is decoded
in the payload's encoding and validated (`GmpPacketData.tryFrom`), and so is
the Solana payload it carries (`GmpSolanaPayload.tryFrom`). Each account the
relayer gave is checked against the packet: the target program against the
receiver, the GMP account against the address of the identity
`(dest_client, sender, salt)`, and the rest, one by one in a loop over the
payload's account metas, against those metas. The program then calls the
target with `invoke_signed`, the GMP account its one signer, and wraps the
target's return data in the acknowledgement.

The model stops `on_recv_packet` at the `invoke_signed` it makes
(`onRecvPacketInvoke`), so that what it calls can be stated for every input,
whether the call then succeeds or not; `onRecvPacket` is the whole
instruction. The decoders, the base58 parser and the runtime's CPI are inputs.

Everything the called instruction carries comes from the proven packet
(`Binds`, `onRecvPacketInvoke_eq_ok`): the program, the data, the account
metas and, through the loop (`checkAccountMetas_eq_ok`), the accounts handed
over, none a signer and each writable where the packet asks for it; the one
signer is the GMP account of the identity, which with SHA-256 injective no
other identity shares (`SolanaGmp.GMPAccount.pda_inj`).

Key definitions: `SolanaGmp.onRecvPacketInvoke`, `SolanaGmp.onRecvPacket`, `SolanaGmp.Binds`.
Key theorems: `SolanaGmp.checkAccountMetas_eq_ok`, `SolanaGmp.onRecvPacketInvoke_eq_ok`,
`SolanaGmp.onRecvPacket_eq_ok`.
-/
import IbcEureka.Solana.GmpAccount
import IbcEureka.Lib.Txn

namespace SolanaGmp

open Txn

/-- `ICS27_VERSION`, `"ics27-2"`. -/
def ics27Version : Bytes := [0x69, 0x63, 0x73, 0x32, 0x37, 0x2d, 0x32]

/-- `GMP_PORT_ID`, `"gmpport"`. -/
def gmpPortId : Bytes := [0x67, 0x6d, 0x70, 0x70, 0x6f, 0x72, 0x74]

/-- `MAX_RECEIVER_LENGTH`. -/
def maxReceiverLength : ℕ := 128

/-- `MAX_MEMO_LENGTH`. -/
def maxMemoLength : ℕ := 256

/-- `MAX_GMP_SOLANA_PAYLOAD_ACCOUNTS`. -/
def maxGmpSolanaPayloadAccounts : ℕ := 32

/-- `Receiver`, which may be empty. -/
abbrev Receiver := Constrained 0 maxReceiverLength

/-- `Memo`. -/
abbrev Memo := Constrained 0 maxMemoLength

/-- `GMPPacketError`. -/
inductive GMPPacketError
  | DecodeError
  | InvalidSender
  | InvalidReceiver
  | InvalidSalt
  | EmptyPayload
  | InvalidPayload
  | MemoTooLong
  deriving DecidableEq, Repr

/-- `GmpValidationError`. -/
inductive GmpValidationError
  | DecodeError
  | InvalidProgramId
  | EmptyPayload
  | TooManyAccounts
  | InvalidAccountKey
  deriving DecidableEq, Repr

/-- `CpiValidationError`. -/
inductive CpiValidationError
  | DirectCallNotAllowed
  | InvalidSysvar
  | UnauthorizedCaller
  | NestedCpiNotAllowed
  deriving DecidableEq, Repr

/-- The variants of `GMPError` that `on_recv_packet` raises. -/
inductive GMPError
  | AppPaused
  | DirectCallNotAllowed
  | UnauthorizedRouter
  | InvalidVersion
  | InvalidPort
  | InsufficientAccounts
  | TargetNotExecutable
  | InvalidEncoding
  | InvalidPacketData
  | InvalidAccountKey
  | AccountKeyMismatch
  | InvalidClientId
  | GMPAccountPDAMismatch
  | InvalidSolanaPayload
  | InvalidProgramId
  | EmptyPayload
  | TooManyAccounts
  | AccountCountMismatch
  | InsufficientAccountPermissions
  | UnexpectedSigner
  /-- A failure of the called program, which aborts the transaction. -/
  | CpiFailed
  deriving DecidableEq, Repr

/-- `impl From<CpiValidationError> for GMPError`. -/
def CpiValidationError.toGMPError : CpiValidationError → GMPError
  | .DirectCallNotAllowed => .DirectCallNotAllowed
  | .InvalidSysvar | .UnauthorizedCaller | .NestedCpiNotAllowed => .UnauthorizedRouter

/-- `impl From<GmpValidationError> for GMPError`. -/
def GmpValidationError.toGMPError : GmpValidationError → GMPError
  | .DecodeError => .InvalidSolanaPayload
  | .InvalidProgramId => .InvalidProgramId
  | .EmptyPayload => .EmptyPayload
  | .TooManyAccounts => .TooManyAccounts
  | .InvalidAccountKey => .InvalidAccountKey

/-- `RawGmpPacketData`, as decoded. -/
structure RawGmpPacketData where
  sender : Bytes
  receiver : Bytes
  salt : Bytes
  payload : Bytes
  memo : Bytes
  deriving DecidableEq, Repr

/-- `GmpPacketData`: the fields validated, the payload non-empty. -/
structure GmpPacketData where
  sender : Sender
  receiver : Receiver
  salt : Salt
  payload : {p : Bytes // p ≠ []}
  memo : Memo

/-- `GmpPacketData::try_from(raw)`: each field in turn. -/
def GmpPacketData.tryFrom (raw : RawGmpPacketData) : Except GMPPacketError GmpPacketData := do
  let sender ← (Constrained.new raw.sender).mapError fun _ => .InvalidSender
  let receiver ← (Constrained.new raw.receiver).mapError fun _ => .InvalidReceiver
  let salt ← (Constrained.new raw.salt).mapError fun _ => .InvalidSalt
  let payload ← if h : raw.payload = [] then .error .EmptyPayload else pure ⟨raw.payload, h⟩
  let memo ← (Constrained.new raw.memo).mapError fun _ => .MemoTooLong
  pure ⟨sender, receiver, salt, payload, memo⟩

/-- `Pubkey::try_from(&[u8])`: exactly 32 bytes. -/
def pubkeyTryFrom (b : Bytes) : Option Pubkey := if b.length = 32 then some b else none

/-- `RawSolanaAccountMeta`. -/
structure RawSolanaAccountMeta where
  pubkey : Bytes
  isSigner : Bool
  isWritable : Bool
  deriving DecidableEq, Repr

/-- `RawGmpSolanaPayload`. -/
structure RawGmpSolanaPayload where
  data : Bytes
  accounts : List RawSolanaAccountMeta
  prefundLamports : ℕ
  deriving DecidableEq, Repr

/-- `SolanaAccountMeta`, its key validated. -/
structure SolanaAccountMeta where
  pubkey : Pubkey
  isSigner : Bool
  isWritable : Bool
  deriving DecidableEq, Repr

/-- `GmpSolanaPayload`. -/
structure GmpSolanaPayload where
  data : Bytes
  accounts : List SolanaAccountMeta
  prefundLamports : ℕ
  deriving DecidableEq, Repr

/-- `GmpSolanaPayload::try_from(raw)`: non-empty data, at most 32 accounts, each key 32 bytes. -/
def GmpSolanaPayload.tryFrom (raw : RawGmpSolanaPayload) : Except GmpValidationError GmpSolanaPayload := do
  require (raw.data ≠ []) .EmptyPayload
  require (raw.accounts.length ≤ maxGmpSolanaPayloadAccounts) .TooManyAccounts
  let accounts ← raw.accounts.mapM fun account => do
    let pubkey ← expect (pubkeyTryFrom account.pubkey) .InvalidAccountKey
    pure (⟨pubkey, account.isSigner, account.isWritable⟩ : SolanaAccountMeta)
  pure ⟨raw.data, accounts, raw.prefundLamports⟩

/-- `AccountMeta`. -/
structure AccountMeta where
  pubkey : Pubkey
  isSigner : Bool
  isWritable : Bool
  deriving DecidableEq, Repr

/-- `GmpSolanaPayload::to_account_metas`. -/
def GmpSolanaPayload.toAccountMetas (p : GmpSolanaPayload) : List AccountMeta :=
  p.accounts.map fun m => ⟨m.pubkey, m.isSigner, m.isWritable⟩

/-- An account the instruction was given, as its `AccountInfo` shows it. -/
structure AccountInfo where
  key : Pubkey
  isSigner : Bool
  isWritable : Bool
  executable : Bool
  deriving DecidableEq, Repr

/-- `Instruction`. -/
structure Instruction where
  programId : Pubkey
  accounts : List AccountMeta
  data : Bytes
  deriving DecidableEq, Repr

/-- A call of `invoke_signed`: the instruction, the account infos handed over, and the seeds of its
one signer. -/
structure SignedInvoke where
  instruction : Instruction
  accountInfos : List AccountInfo
  signerSeeds : List Bytes
  deriving DecidableEq, Repr

/-- `GMPAccount::to_signer_seeds().as_slices()`: the seed and the digest of the identity; the bump
is left out, as the address model derives without one. -/
def GMPAccount.signerSeeds (H : Hashes) (a : AccountIdentifier) : List Bytes := [gmpAccountSeed, a.digest H]

/-- `OnRecvPacketMsg`. -/
structure OnRecvPacketMsg where
  sourceClient : Bytes
  destClient : Bytes
  sequence : ℕ
  payload : Payload
  relayer : Pubkey

/-- What the GMP program takes from its libraries: the packet and payload decoders and the
acknowledgement encoder, each given the payload's encoding (they fail on an unknown one), and
`Pubkey::try_from` of the receiver string. -/
structure Externals where
  decodeGmpPacket : Bytes → Bytes → Except GMPError RawGmpPacketData
  decodeRaw : Bytes → Bytes → Except GMPError RawGmpSolanaPayload
  encodeGmpAck : Bytes → Bytes → Except GMPError Bytes
  parsePubkey : Bytes → Option Pubkey

/-- What the runtime gives the instruction: the app state's pause flag, the CPI context that
`validate_cpi_caller` reads, the remaining accounts, and the outcome of `invoke_signed` with the
return data it leaves. -/
structure Env where
  paused : Bool
  stackHeight : ℕ
  topLevelProgram : Pubkey
  remainingAccounts : List AccountInfo
  invokeSigned : SignedInvoke → Except GMPError (Option (Pubkey × Bytes))

/-- `FIXED_REMAINING_ACCOUNTS`. -/
def fixedRemainingAccounts : ℕ := 2

/-- `GMP_ACCOUNT_INDEX`. -/
def gmpAccountIndex : ℕ := 0

/-- `TARGET_PROGRAM_INDEX`. -/
def targetProgramIndex : ℕ := 1

section Instruction

-- The GMP program's id and the router's.
variable (X : Externals) (H : Hashes) (programId routerId : Pubkey)

/-- `validate_cpi_caller`: a single-level CPI whose top-level instruction is the router's. -/
def validateCpiCaller (env : Env) : Except CpiValidationError Unit := do
  require (env.stackHeight ≤ 2) .NestedCpiNotAllowed
  require (env.topLevelProgram ≠ programId) .DirectCallNotAllowed
  require (env.topLevelProgram = routerId) .UnauthorizedCaller

/-- The loop of `on_recv_packet` over the account metas and the accounts given for them. -/
def checkAccountMetas (metas : List AccountMeta) (accountInfos : List AccountInfo) : Except GMPError Unit :=
  (metas.zip accountInfos).forM fun (accountMeta, accountInfo) => do
    require (accountInfo.key = accountMeta.pubkey) .AccountKeyMismatch
    require (accountInfo.isWritable = true ∨ accountMeta.isWritable = false) .InsufficientAccountPermissions
    -- the GMP account signs only through `invoke_signed`; no other signer may come along
    require (accountInfo.isSigner = false) .UnexpectedSigner

/-- `on_recv_packet` up to the `invoke_signed` it ends in: the checks, and the call. -/
def onRecvPacketInvoke (env : Env) (msg : OnRecvPacketMsg) : Except GMPError SignedInvoke := do
  require (env.paused = false) .AppPaused
  (validateCpiCaller programId routerId env).mapError CpiValidationError.toGMPError
  require (msg.payload.version = ics27Version) .InvalidVersion
  require (msg.payload.sourcePort = gmpPortId) .InvalidPort
  require (msg.payload.destPort = gmpPortId) .InvalidPort
  let targetProgram ← expect env.remainingAccounts[targetProgramIndex]? .InsufficientAccounts
  require (targetProgram.executable = true) .TargetNotExecutable
  let rawPacketData ← X.decodeGmpPacket msg.payload.value msg.payload.encoding
  let packetData ← (GmpPacketData.tryFrom rawPacketData).mapError fun _ => .InvalidPacketData
  let receiverPubkey ← expect (X.parsePubkey packetData.receiver.val) .InvalidAccountKey
  require (targetProgram.key = receiverPubkey) .AccountKeyMismatch
  let clientId ← (Constrained.new msg.destClient : Except ConstrainedError ClientId).mapError fun _ => .InvalidClientId
  let gmpAccount : AccountIdentifier := ⟨clientId, packetData.sender, packetData.salt⟩
  let gmpAccountInfo ← expect env.remainingAccounts[gmpAccountIndex]? .InsufficientAccounts
  -- an address that does not derive matches no key
  require (GMPAccount.pda H gmpAccount = some gmpAccountInfo.key) .GMPAccountPDAMismatch
  let rawPayload ← X.decodeRaw packetData.payload.val msg.payload.encoding
  let solanaPayload ← (GmpSolanaPayload.tryFrom rawPayload).mapError GmpValidationError.toGMPError
  let accountMetas := solanaPayload.toAccountMetas
  let remainingAccountsForExecution := env.remainingAccounts.drop fixedRemainingAccounts
  require (remainingAccountsForExecution.length = accountMetas.length) .AccountCountMismatch
  checkAccountMetas accountMetas remainingAccountsForExecution
  pure ⟨⟨receiverPubkey, accountMetas, solanaPayload.data⟩, remainingAccountsForExecution,
    GMPAccount.signerSeeds H gmpAccount⟩

/-- The result the acknowledgement wraps: the return data left after the call, when the called
program itself set it (its id is `receiver_pubkey`), and nothing otherwise. -/
def callResult (call : SignedInvoke) : Option (Pubkey × Bytes) → Bytes
  | some (returnProgramId, data) => if returnProgramId = call.instruction.programId then data else []
  | none => []

/-- `on_recv_packet`: the call, then the acknowledgement of its result in the payload's encoding. -/
def onRecvPacket (env : Env) (msg : OnRecvPacketMsg) : Except GMPError Bytes := do
  let call ← onRecvPacketInvoke X H programId routerId env msg
  let returnData ← env.invokeSigned call
  X.encodeGmpAck (callResult call returnData) msg.payload.encoding

/-- What ties a call of `invoke_signed` to the packet it executes, given the packet data and the
Solana payload decoded from it and the client it came over: the called program is the receiver
and was given as `remaining_accounts[1]`; the data and the account metas are the payload's; the
accounts handed over are `remaining_accounts[2..]`, one for each meta, with its key, writable where
it asks for it and no signer; the one signer is the GMP account of the identity, given as
`remaining_accounts[0]`. -/
structure Binds (env : Env) (msg : OnRecvPacketMsg) (packetData : GmpPacketData)
    (solanaPayload : GmpSolanaPayload) (clientId : ClientId) (call : SignedInvoke) : Prop where
  decoded : ∃ raw, X.decodeGmpPacket msg.payload.value msg.payload.encoding = .ok raw ∧
    GmpPacketData.tryFrom raw = .ok packetData
  decodedPayload : ∃ raw, X.decodeRaw packetData.payload.val msg.payload.encoding = .ok raw ∧
    GmpSolanaPayload.tryFrom raw = .ok solanaPayload
  program : X.parsePubkey packetData.receiver.val = some call.instruction.programId
  target : ∃ target, env.remainingAccounts[targetProgramIndex]? = some target ∧
    target.key = call.instruction.programId ∧ target.executable = true
  data : call.instruction.data = solanaPayload.data
  metas : call.instruction.accounts = solanaPayload.toAccountMetas
  accounts : call.accountInfos = env.remainingAccounts.drop fixedRemainingAccounts
  accountsMatch : List.Forall₂ (fun m info => info.key = m.pubkey ∧ (m.isWritable = true → info.isWritable = true) ∧
    info.isSigner = false) call.instruction.accounts call.accountInfos
  client : clientId.val = msg.destClient
  signer : call.signerSeeds = GMPAccount.signerSeeds H ⟨clientId, packetData.sender, packetData.salt⟩
  gmpAccount : ∃ info, env.remainingAccounts[gmpAccountIndex]? = some info ∧
    GMPAccount.pda H ⟨clientId, packetData.sender, packetData.salt⟩ = some info.key

end Instruction

/-! ## The account loop -/

theorem checkAccountMeta_eq_ok {m : AccountMeta} {info : AccountInfo} :
    (do
      require (info.key = m.pubkey) GMPError.AccountKeyMismatch
      require (info.isWritable = true ∨ m.isWritable = false) GMPError.InsufficientAccountPermissions
      require (info.isSigner = false) GMPError.UnexpectedSigner : Except GMPError Unit) = .ok () ↔
      info.key = m.pubkey ∧ (m.isWritable = true → info.isWritable = true) ∧ info.isSigner = false := by
  simp only [require_bind_eq_ok, require_eq_ok]
  cases m.isWritable <;> simp

/-- **The account loop.** With as many accounts as metas, the loop passes exactly when the
accounts match the metas one for one, in order. -/
theorem checkAccountMetas_eq_ok {metas : List AccountMeta} {infos : List AccountInfo}
    (hlen : infos.length = metas.length) :
    checkAccountMetas metas infos = .ok () ↔
      List.Forall₂ (fun m info => info.key = m.pubkey ∧ (m.isWritable = true → info.isWritable = true) ∧
        info.isSigner = false) metas infos := by
  unfold checkAccountMetas
  rw [forM_eq_ok, List.forall₂_iff_zip]
  constructor
  · intro h
    refine ⟨hlen.symm, fun hmem => ?_⟩
    exact checkAccountMeta_eq_ok.mp (h _ hmem)
  · rintro ⟨-, h⟩ ⟨m, info⟩ hmem
    exact checkAccountMeta_eq_ok.mpr (h hmem)

/-! ## The call and the acknowledgement -/

section Spec

variable {X : Externals} {H : Hashes} {programId routerId : Pubkey} {env : Env} {msg : OnRecvPacketMsg}

/-- **What `on_recv_packet` calls.** Whenever it reaches `invoke_signed`, the call is bound to the
packet and the accounts. -/
theorem onRecvPacketInvoke_eq_ok {call : SignedInvoke}
    (h : onRecvPacketInvoke X H programId routerId env msg = .ok call) :
    ∃ packetData solanaPayload clientId, Binds X H env msg packetData solanaPayload clientId call := by
  simp only [onRecvPacketInvoke, bind_eq_ok, require_eq_ok, exists_const, expect_eq_ok, mapError_eq_ok,
    pure_eq_ok] at h
  obtain ⟨-, ⟨⟩, -, -, -, -, target, htarget, hexec, raw, hraw, packetData, hpacket, receiver, hreceiver, hkey,
    clientId, hclient, gmpInfo, hgmp, hpda, rawPayload, hrawPayload, solanaPayload, hpayload, hlen, ⟨⟩, hloop,
    rfl⟩ := h
  exact ⟨packetData, solanaPayload, clientId,
    { decoded := ⟨raw, hraw, hpacket⟩
      decodedPayload := ⟨rawPayload, hrawPayload, hpayload⟩
      program := hreceiver
      target := ⟨target, htarget, hkey, hexec⟩
      data := rfl
      metas := rfl
      accounts := rfl
      accountsMatch := (checkAccountMetas_eq_ok hlen).mp hloop
      client := Constrained.new_eq_ok.mp hclient
      signer := rfl
      gmpAccount := ⟨gmpInfo, hgmp, hpda⟩ }⟩

/-- **The acknowledgement.** `on_recv_packet` succeeds exactly when it reaches `invoke_signed` and
the call succeeds; it acknowledges the call's result in the payload's encoding. -/
theorem onRecvPacket_eq_ok {ack : Bytes} :
    onRecvPacket X H programId routerId env msg = .ok ack ↔
      ∃ call returnData, onRecvPacketInvoke X H programId routerId env msg = .ok call ∧
        env.invokeSigned call = .ok returnData ∧
        X.encodeGmpAck (callResult call returnData) msg.payload.encoding = .ok ack := by
  simp only [onRecvPacket, bind_eq_ok, exists_and_left]

end Spec

/-! ## Samples -/

/-- The client `a`. -/
def sampleClientId : ClientId := ⟨[0x61], by decide, by decide⟩

/-- A packet from the sender `b`, with an empty salt, for the program `0x07…07`. -/
def sampleRawPacketData : RawGmpPacketData := ⟨[0x62], List.replicate 32 7, [], [0x01], []⟩

/-- A call of the data `0x2a` with one writable account `0x09…09`. -/
def sampleRawPayload : RawGmpSolanaPayload := ⟨[0x2a], [⟨List.replicate 32 9, false, true⟩], 0⟩

/-- Decoders that return the samples whatever the bytes, the receiver string taken as the key. -/
def sampleExternals : Externals where
  decodeGmpPacket _ _ := .ok sampleRawPacketData
  decodeRaw _ _ := .ok sampleRawPayload
  encodeGmpAck result _ := .ok result
  parsePubkey receiver := pubkeyTryFrom receiver

/-- The identity as both hashes. -/
def sampleHashes : Hashes := ⟨id, id⟩

/-- The GMP account of the sample identity. -/
def sampleGmpAccount : Pubkey :=
  gmpAccountSeed ++ (AccountIdentifier.mk sampleClientId ⟨[0x62], by decide, by decide⟩ Salt.empty).toBorsh

/-- The router (`0x02…02`) calls the GMP program (`0x01…01`) with the GMP account, the target and
its account; the call returns `0x2b` tagged with the target. -/
def sampleEnv : Env where
  paused := false
  stackHeight := 2
  topLevelProgram := List.replicate 32 2
  remainingAccounts := [⟨sampleGmpAccount, false, true, false⟩, ⟨List.replicate 32 7, false, false, true⟩,
    ⟨List.replicate 32 9, false, true, false⟩]
  invokeSigned _ := .ok (some (List.replicate 32 7, [0x2b]))

/-- A GMP packet received over the client `a`. -/
def sampleMsg : OnRecvPacketMsg := ⟨[0x63], [0x61], 1, ⟨gmpPortId, gmpPortId, ics27Version, [], []⟩, []⟩

/-- The call the sample packet makes. -/
def sampleCall : SignedInvoke :=
  ⟨⟨List.replicate 32 7, [⟨List.replicate 32 9, false, true⟩], [0x2a]⟩, [⟨List.replicate 32 9, false, true, false⟩],
    [gmpAccountSeed, (AccountIdentifier.mk sampleClientId ⟨[0x62], by decide, by decide⟩ Salt.empty).toBorsh]⟩

/-! ## The execution is bound to the packet -/

section Binding

variable {X : Externals} {H : Hashes} {programId routerId : Pubkey} {env : Env} {msg : OnRecvPacketMsg}

/-- **The execution is bound to the proven packet.** Whatever accounts the relayer gives,
whenever `on_recv_packet` reaches `invoke_signed`, the call is bound to the packet and the
accounts (`Binds`); and the acknowledgement it returns is that of the call's result. -/
theorem gmp_recv_binding :
    (∀ call, onRecvPacketInvoke X H programId routerId env msg = .ok call →
      ∃ packetData solanaPayload clientId, Binds X H env msg packetData solanaPayload clientId call) ∧
    ∀ ack, onRecvPacket X H programId routerId env msg = .ok ack →
      ∃ call returnData packetData solanaPayload clientId, Binds X H env msg packetData solanaPayload clientId call ∧
        env.invokeSigned call = .ok returnData ∧
        X.encodeGmpAck (callResult call returnData) msg.payload.encoding = .ok ack := by
  refine ⟨fun call h => onRecvPacketInvoke_eq_ok h, fun ack h => ?_⟩
  obtain ⟨call, returnData, hcall, hinvoke, hack⟩ := onRecvPacket_eq_ok.mp h
  obtain ⟨packetData, solanaPayload, clientId, hb⟩ := onRecvPacketInvoke_eq_ok hcall
  exact ⟨call, returnData, packetData, solanaPayload, clientId, hb, hinvoke, hack⟩

theorem gmp_recv_binding_sample :
    onRecvPacketInvoke sampleExternals sampleHashes (List.replicate 32 1) (List.replicate 32 2) sampleEnv sampleMsg =
        .ok sampleCall ∧
      ∃ packetData solanaPayload clientId,
        Binds sampleExternals sampleHashes sampleEnv sampleMsg packetData solanaPayload clientId sampleCall := by
  have h : onRecvPacketInvoke sampleExternals sampleHashes (List.replicate 32 1) (List.replicate 32 2) sampleEnv
      sampleMsg = .ok sampleCall := by
    decide
  exact ⟨h, gmp_recv_binding.1 sampleCall h⟩

-- The sample call returns `0x2b`, tagged with the target, which the acknowledgement carries.
example : onRecvPacket sampleExternals sampleHashes (List.replicate 32 1) (List.replicate 32 2) sampleEnv sampleMsg =
    .ok [0x2b] := by
  decide

end Binding

end SolanaGmp
