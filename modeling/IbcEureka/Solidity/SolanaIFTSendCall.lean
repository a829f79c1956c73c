/-
# The mint call an Ethereum IFT sends to Solana

A bridge of the Ethereum IFT to a Solana mint has `constructMintCall` of a
`SolanaIFTSendCallConstructor` build the GMP payload that mints the amount on
Solana: the `ISolanaGMPMsgs.GMPSolanaPayload` of an `ift_mint` call. Its
packed accounts are the twelve accounts of the IFT program's `IFTMint`, from
the constructor's six immutable PDAs, the wallet and the token account the
receiver string names (`"0x"`, then 64 hex digits each), and three program
ids; its instruction data are `ift_mint`'s discriminator, the wallet and the
amount as a little-endian `u64`.

Read back on Solana, the payload is what the GMP app calls
(`constructMintCall_decodes`): `decode_raw` gives the account metas and the
data that `GmpSolanaPayload::try_from` accepts, Anchor binds the metas to
`IFTMint`'s accounts, each in its place and with the signers and writable
accounts it asks for, and the data to `ift_mint` with the wallet as the
receiver and the amount sent. This holds for every decoder that reads back
`abi.encode` (alloy's `abi_decode`) and as soon as the Solidity constant is
Anchor's discriminator of `ift_mint`, the first 8 bytes of
`sha256("global:ift_mint")`.

Key definitions: `SolanaIFTSendCallConstructor.constructMintCall`,
`SolanaIFTSendCallConstructor.buildPackedAccounts`, `SolanaIFTSendCallConstructor.buildInstructionData`.
Key theorems: `SolanaIFTSendCallConstructor.constructMintCall_eq_ok`,
`SolanaIFTSendCallConstructor.constructMintCall_decodes`.
-/
import IbcEureka.Solana.GmpPayload

namespace SolanaIFTSendCallConstructor

open Txn SolanaGmp

/-- `TOKEN_PROGRAM`. -/
def tokenProgram : BitVec 256 := 0x06ddf6e1d765a193d9cbe146ceeb79ac1cb485ed5f5b37913a8cf5857eff00a9

/-- `ASSOCIATED_TOKEN_PROGRAM`. -/
def associatedTokenProgram : BitVec 256 := 0x8c97258f4e2489f1bb3d1029148e0d830b5a1399daff1084048e7bd8dbe9f859

/-- `SYSTEM_PROGRAM`. -/
def systemProgram : BitVec 256 := 0

/-- `IFT_MINT_DISCRIMINATOR`. -/
def iftMintDiscriminator : BitVec 64 := 0x9cc9d99072afaa53

/-- `PREFUND_LAMPORTS`. -/
def prefundLamports : ℕ := 3000000

/-- `SOLANA_RECEIVER_HEX_LENGTH`. -/
def solanaReceiverHexLength : ℕ := 130

/-- The six PDAs set at deployment. -/
structure Immutables where
  appState : BitVec 256
  appMintState : BitVec 256
  iftBridge : BitVec 256
  mint : BitVec 256
  mintAuthority : BitVec 256
  gmpAccount : BitVec 256

/-- The constructor's reverts, with `SafeCast`'s. -/
inductive Error
  | SolanaIFTInvalidReceiver (receiver : Bytes)
  | SolanaIFTZeroAmount
  | SafeCastOverflowedUintDowncast (bits : ℕ) (value : ℕ)
  deriving DecidableEq, Repr

/-- What the constructor takes from OpenZeppelin: `Strings.tryParseHexUint`, `none` where it fails. -/
structure Externals where
  tryParseHexUint : Bytes → Option (BitVec 256)

/-- A `bytes32` as the Solana key its 32 bytes are. -/
def pubkeyOf (v : BitVec 256) : Bytes := Bytes.be 32 v.toNat

section Contract

variable (X : Externals)

/-- `_parseWalletAndAta(receiver)`: `"0x"`, then the wallet's 64 hex digits and the token
account's. -/
def parseWalletAndAta (receiver : Bytes) : Except Error (BitVec 256 × BitVec 256) := do
  require (receiver.length = solanaReceiverHexLength) (.SolanaIFTInvalidReceiver receiver)
  require (receiver[0]? = some 0x30 ∧ receiver[1]? = some 0x78) (.SolanaIFTInvalidReceiver receiver)
  let walletHex := Abi.encodePacked [.raw [0x30, 0x78], .raw ((receiver.drop 2).take 64)]
  let ataHex := Abi.encodePacked [.raw [0x30, 0x78], .raw ((receiver.drop 66).take 64)]
  let walletParsed ← expect (X.tryParseHexUint walletHex) (.SolanaIFTInvalidReceiver receiver)
  let ataParsed ← expect (X.tryParseHexUint ataHex) (.SolanaIFTInvalidReceiver receiver)
  pure (walletParsed, ataParsed)

/-- `_packAccount(pubkey, isSigner, isWritable)`. -/
def packAccount (pubkey : BitVec 256) (isSigner isWritable : Bool) : Bytes :=
  Abi.encodePacked [.fixedBytes 32 pubkey, .uint 1 isSigner.toNat, .uint 1 isWritable.toNat]

/-- `_buildPackedAccounts(wallet, ata)`: `IFTMint`'s accounts in order, the GMP account twice, as
the signing `gmp_account` and as the writable `payer`. -/
def buildPackedAccounts (c : Immutables) (wallet ata : BitVec 256) : Bytes :=
  packAccount c.appState false false ++ packAccount c.appMintState false true ++
    packAccount c.iftBridge false false ++ packAccount c.mint false true ++
    packAccount c.mintAuthority false false ++ packAccount ata false true ++ packAccount wallet false false ++
    packAccount c.gmpAccount true false ++ packAccount c.gmpAccount true true ++
    packAccount tokenProgram false false ++ packAccount associatedTokenProgram false false ++
    packAccount systemProgram false false

/-- `SafeCast.toUint64(value)`. -/
def toUint64 (value : ℕ) : Except Error UInt64 := do
  require (value < 2 ^ 64) (.SafeCastOverflowedUintDowncast 64 value)
  pure (UInt64.ofNat value)

/-- `Bytes.reverseBytes8(value)`: the eight bytes in reverse order. -/
def reverseBytes8 (value : Bytes) : Bytes := value.reverse

/-- `_buildInstructionData(wallet, amount)`: the discriminator, the wallet, and the amount
little-endian. -/
def buildInstructionData (wallet : BitVec 256) (amount : ℕ) : Except Error Bytes := do
  let amountU64 ← toUint64 amount
  pure (Abi.encodePacked [.fixedBytes 8 iftMintDiscriminator, .fixedBytes 32 wallet,
    .raw (reverseBytes8 (Bytes.be 8 amountU64.toNat))])

/-- `constructMintCall(receiver, amount)`. -/
def constructMintCall (c : Immutables) (receiver : Bytes) (amount : ℕ) : Except Error Bytes := do
  require (0 < amount) .SolanaIFTZeroAmount
  let (wallet, ata) ← parseWalletAndAta X receiver
  let instructionData ← buildInstructionData wallet amount
  pure (Abi.encode [(⟨buildPackedAccounts c wallet ata, instructionData, UInt64.ofNat prefundLamports⟩ :
    GMPSolanaPayloadAbi).toAbi])

end Contract

/-! ## What the constructor builds -/

theorem packAccount_eq (pubkey : BitVec 256) (isSigner isWritable : Bool) :
    packAccount pubkey isSigner isWritable = RawSolanaAccountMeta.packed ⟨pubkeyOf pubkey, isSigner, isWritable⟩ := by
  cases isSigner <;> cases isWritable <;> rfl

theorem buildInstructionData_eq_ok {wallet : BitVec 256} {amount : ℕ} {data : Bytes} :
    buildInstructionData wallet amount = .ok data ↔
      amount < 2 ^ 64 ∧ data = Bytes.be 8 iftMintDiscriminator.toNat ++ pubkeyOf wallet ++ (Bytes.be 8 amount).reverse := by
  simp only [buildInstructionData, toUint64, bind_eq_ok, require_eq_ok, exists_const, pure_eq_ok]
  constructor
  · rintro ⟨_, ⟨hlt, rfl⟩, rfl⟩
    refine ⟨hlt, ?_⟩
    simp [Abi.encodePacked, reverseBytes8, pubkeyOf, UInt64.toNat_ofNat_of_lt' hlt]
  · rintro ⟨hlt, rfl⟩
    refine ⟨_, ⟨hlt, rfl⟩, ?_⟩
    simp [Abi.encodePacked, reverseBytes8, pubkeyOf, UInt64.toNat_ofNat_of_lt' hlt]

/-- **What the constructor returns.** It returns exactly when the amount is positive, fits a
`u64`, and the receiver parses: the encoding of the payload of the mint call. -/
theorem constructMintCall_eq_ok {X : Externals} {c : Immutables} {receiver : Bytes} {amount : ℕ} {payload : Bytes} :
    constructMintCall X c receiver amount = .ok payload ↔
      0 < amount ∧ ∃ wallet ata data, parseWalletAndAta X receiver = .ok (wallet, ata) ∧
        buildInstructionData wallet amount = .ok data ∧
        payload = Abi.encode [(⟨buildPackedAccounts c wallet ata, data, UInt64.ofNat prefundLamports⟩ :
          GMPSolanaPayloadAbi).toAbi] := by
  simp only [constructMintCall, bind_eq_ok, require_eq_ok, exists_const, pure_eq_ok]
  constructor
  · rintro ⟨hpos, ⟨wallet, ata⟩, hparse, data, hdata, rfl⟩
    exact ⟨hpos, wallet, ata, data, hparse, hdata, rfl⟩
  · rintro ⟨hpos, wallet, ata, data, hparse, hdata, hpayload⟩
    exact ⟨hpos, (wallet, ata), hparse, data, hdata, hpayload.symm⟩

/-! ## Reading the mint call back on Solana -/

/-- `GmpSolanaPayload::try_from` accepts non-empty data and at most 32 accounts whose keys have 32
bytes, and keeps them. -/
theorem tryFrom_eq_ok_of_keys {raw : RawGmpSolanaPayload} (hdata : raw.data ≠ [])
    (hcount : raw.accounts.length ≤ maxGmpSolanaPayloadAccounts) (hkeys : ∀ m ∈ raw.accounts, m.pubkey.length = 32) :
    GmpSolanaPayload.tryFrom raw =
      .ok ⟨raw.data, raw.accounts.map fun m => ⟨m.pubkey, m.isSigner, m.isWritable⟩, raw.prefundLamports⟩ := by
  rw [GmpSolanaPayload.tryFrom, require_bind_of_pos hdata, require_bind_of_pos hcount]
  have hmap : raw.accounts.mapM (fun account => do
      let pubkey ← expect (pubkeyTryFrom account.pubkey) GmpValidationError.InvalidAccountKey
      pure (⟨pubkey, account.isSigner, account.isWritable⟩ : SolanaAccountMeta)) =
        .ok (raw.accounts.map fun m => ⟨m.pubkey, m.isSigner, m.isWritable⟩) := by
    rw [mapM_eq_ok, List.forall₂_map_right_iff]
    exact List.forall₂_same.mpr fun m hm => by simp [pubkeyTryFrom, hkeys m hm, expect, bind, Except.bind]
  rw [hmap]
  rfl

/-- **The mint call reads back on Solana.** For every decoder that reads back `abi.encode`, and
with the Solidity constant Anchor's discriminator of `ift_mint`: whatever the constructor returns,
`decode_raw` decodes under the ABI encoding and `GmpSolanaPayload::try_from` accepts, Anchor
binds the account metas to `IFTMint`'s accounts, the immutables, the receiver's token account
and wallet, and the GMP account as signer and payer, each in its place, and reads the data as
`ift_mint` of the amount to the wallet; the prefund is `PREFUND_LAMPORTS`. -/
theorem constructMintCall_decodes {X : Externals} {c : Immutables} {receiver : Bytes} {amount : ℕ} {payload : Bytes}
    {abiDecode : Bytes → Option GMPSolanaPayloadAbi} {protoDecode : Bytes → Option RawGmpSolanaPayload} {H : Hashes}
    (hdec : AbiDecodes abiDecode)
    (hdisc : SolanaIft.instructionDiscriminator H SolanaIft.iftMintName = Bytes.be 8 iftMintDiscriminator.toNat)
    (h : constructMintCall X c receiver amount = .ok payload) :
    ∃ wallet ata, parseWalletAndAta X receiver = .ok (wallet, ata) ∧
      ∃ raw solanaPayload, decodeRaw abiDecode protoDecode payload ics27EncodingAbi = .ok raw ∧
        GmpSolanaPayload.tryFrom raw = .ok solanaPayload ∧
        SolanaIft.IFTMintAccounts.tryAccounts solanaPayload.toAccountMetas =
          .ok ⟨pubkeyOf c.appState, pubkeyOf c.appMintState, pubkeyOf c.iftBridge, pubkeyOf c.mint,
            pubkeyOf c.mintAuthority, pubkeyOf ata, pubkeyOf wallet, pubkeyOf c.gmpAccount, pubkeyOf c.gmpAccount,
            pubkeyOf tokenProgram, pubkeyOf associatedTokenProgram, pubkeyOf systemProgram⟩ ∧
        SolanaIft.decodeIftMint H solanaPayload.data = some ⟨pubkeyOf wallet, amount⟩ ∧
        solanaPayload.prefundLamports = prefundLamports := by
  obtain ⟨-, wallet, ata, data, hparse, hdata, hpayload⟩ := constructMintCall_eq_ok.mp h
  obtain ⟨hlt, hdata⟩ := buildInstructionData_eq_ok.mp hdata
  -- the twelve entries of the packed accounts
  let metas : List RawSolanaAccountMeta := [⟨pubkeyOf c.appState, false, false⟩,
    ⟨pubkeyOf c.appMintState, false, true⟩, ⟨pubkeyOf c.iftBridge, false, false⟩, ⟨pubkeyOf c.mint, false, true⟩,
    ⟨pubkeyOf c.mintAuthority, false, false⟩, ⟨pubkeyOf ata, false, true⟩, ⟨pubkeyOf wallet, false, false⟩,
    ⟨pubkeyOf c.gmpAccount, true, false⟩, ⟨pubkeyOf c.gmpAccount, true, true⟩, ⟨pubkeyOf tokenProgram, false, false⟩,
    ⟨pubkeyOf associatedTokenProgram, false, false⟩, ⟨pubkeyOf systemProgram, false, false⟩]
  have hpacked : (metas.map RawSolanaAccountMeta.packed).flatten = buildPackedAccounts c wallet ata := by
    simp only [buildPackedAccounts, packAccount_eq, metas, List.map_cons, List.map_nil, List.flatten_cons,
      List.flatten_nil, List.append_assoc, List.append_nil]
  have hkeys : ∀ m ∈ metas, m.pubkey.length = 32 := by
    intro m hm
    simp only [metas, List.mem_cons, List.not_mem_nil, or_false] at hm
    rcases hm with rfl | rfl | rfl | rfl | rfl | rfl | rfl | rfl | rfl | rfl | rfl | rfl <;> exact Bytes.be_length _ _
  -- the payload is short enough for its words, so the decoder reads it back, and it unpacks
  have hbounded : GMPSolanaPayloadAbi.Bounded ⟨buildPackedAccounts c wallet ata, data, UInt64.ofNat prefundLamports⟩ := by
    rw [GMPSolanaPayloadAbi.Bounded, GMPSolanaPayloadAbi.toAbi, Abi.encode_bytes_bytes_uint, ← hpacked, hdata]
    simp [Abi.enc_bytes, Abi.padding, metas, RawSolanaAccountMeta.packed, pubkeyOf]
  let raw : RawGmpSolanaPayload := ⟨data, metas, prefundLamports⟩
  have hraw : decodeRaw abiDecode protoDecode payload ics27EncodingAbi = .ok raw := by
    have hunpack : RawGmpSolanaPayload.tryFromAbi ⟨buildPackedAccounts c wallet ata, data, UInt64.ofNat prefundLamports⟩ =
        .ok raw := tryFromAbi_eq_ok.mpr ⟨hkeys, hpacked, rfl, rfl⟩
    rw [hpayload, decodeRaw, if_pos rfl, decodeAbiToRaw, hdec _ hbounded]
    simp [expect, bind, Except.bind, hunpack, Except.mapError]
  have hdata_ne : data ≠ [] := by
    rw [hdata]
    exact List.ne_nil_of_length_pos (by simp)
  refine ⟨wallet, ata, hparse, raw, _, hraw,
    tryFrom_eq_ok_of_keys hdata_ne (by simp [raw, metas, maxGmpSolanaPayloadAccounts]) hkeys, rfl, ?_, rfl⟩
  -- the data: the discriminator, then the wallet and the amount as borsh reads them
  show SolanaIft.decodeIftMint H data = _
  have h8 : (Bytes.be 8 iftMintDiscriminator.toNat).length = 8 := Bytes.be_length _ _
  have h32 : (pubkeyOf wallet).length = 32 := Bytes.be_length _ _
  rw [hdata, SolanaIft.decodeIftMint, List.append_assoc, List.take_left' h8, hdisc, if_pos rfl, List.drop_left' h8,
    SolanaIft.MintMsg.deserialize, if_pos (by simp [h32]), List.take_left' h32, List.drop_left' h32]
  simp only [List.take_of_length_le, List.length_reverse, Bytes.be_length, le_refl, List.reverse_reverse,
    Bytes.beNat_be, Option.some.injEq, SolanaIft.MintMsg.mk.injEq, true_and]
  exact Nat.mod_eq_of_lt (by simpa using hlt)

/-- A constructor with zero PDAs, whose hex parser reads 5 from anything. -/
def sampleExternals : Externals := ⟨fun _ => some 5⟩

/-- `"0x"` and 128 zeros. -/
def sampleReceiver : Bytes := [0x30, 0x78] ++ List.replicate 128 0x30

/-- A SHA-256 whose every digest starts with the constant. -/
def sampleHashes : Hashes := ⟨fun _ => Bytes.be 8 iftMintDiscriminator.toNat, id⟩

/-- The payload for one token to the wallet 5. -/
def samplePayload : Bytes :=
  Abi.encode [(⟨buildPackedAccounts ⟨0, 0, 0, 0, 0, 0⟩ 5 5,
    Bytes.be 8 iftMintDiscriminator.toNat ++ pubkeyOf 5 ++ (Bytes.be 8 1).reverse, UInt64.ofNat prefundLamports⟩ :
      GMPSolanaPayloadAbi).toAbi]

set_option maxRecDepth 2000 in
theorem constructMintCall_decodes_sample :
    ∃ wallet ata, parseWalletAndAta sampleExternals sampleReceiver = .ok (wallet, ata) ∧
      ∃ raw solanaPayload, decodeRaw readPayloadAbi (fun _ => none) samplePayload ics27EncodingAbi = .ok raw ∧
        GmpSolanaPayload.tryFrom raw = .ok solanaPayload ∧
        SolanaIft.IFTMintAccounts.tryAccounts solanaPayload.toAccountMetas =
          .ok ⟨pubkeyOf 0, pubkeyOf 0, pubkeyOf 0, pubkeyOf 0, pubkeyOf 0, pubkeyOf ata, pubkeyOf wallet, pubkeyOf 0,
            pubkeyOf 0, pubkeyOf tokenProgram, pubkeyOf associatedTokenProgram, pubkeyOf systemProgram⟩ ∧
        SolanaIft.decodeIftMint sampleHashes solanaPayload.data = some ⟨pubkeyOf wallet, 1⟩ ∧
        solanaPayload.prefundLamports = prefundLamports :=
  constructMintCall_decodes (c := ⟨0, 0, 0, 0, 0, 0⟩) readPayloadAbi_encode
    (by simp [SolanaIft.instructionDiscriminator, sampleHashes, List.take_of_length_le])
    (constructMintCall_eq_ok.mpr ⟨by decide, 5, 5, _, rfl, buildInstructionData_eq_ok.mpr ⟨by decide, rfl⟩, rfl⟩)

end SolanaIFTSendCallConstructor
