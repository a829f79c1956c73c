/-
# The Solana payload of a GMP call, and the `ift_mint` call it carries

A GMP packet to Solana names, in its payload, the instruction the GMP app is
to call: its data, its account metas, and the lamports to prefund the GMP
account with. In the ABI encoding it is the struct
`ISolanaGMPMsgs.GMPSolanaPayload` (the program's `sol!` reads the Solidity
file), whose accounts are packed, 34 bytes each: the key, then a byte for
`is_signer` and one for `is_writable`. `decode_raw` decodes the payload by its
encoding; for the ABI one, `decode_abi_to_raw` decodes the struct (alloy's
`abi_decode`, an input) and cuts the packed accounts into entries
(`RawGmpSolanaPayload::try_from`). The unpacking accepts exactly the strings
that are packed entries, with keys of 32 bytes and flag bytes 0 or 1, and
reads them back in order (`tryFromAbi_eq_ok`).

The IFT program's `ift_mint` is called this way by the GMP account of a
counterparty token. Anchor binds the call's accounts by position to
`IFTMint`'s (`IFTMintAccounts.tryAccounts`), and reads its data as the
instruction's discriminator, the first 8 bytes of `sha256("global:ift_mint")`,
then the borsh encoding of `IFTMintMsg` (`decodeIftMint`).

Key definitions: `SolanaGmp.RawGmpSolanaPayload.tryFromAbi`, `SolanaGmp.decodeRaw`,
`SolanaIft.IFTMintAccounts.tryAccounts`, `SolanaIft.decodeIftMint`.
Key theorems: `SolanaGmp.tryFromAbi_eq_ok`, `SolanaGmp.readPayloadAbi_encode`.
-/
import IbcEureka.Solana.GmpSend
import IbcEureka.Lib.Abi
import IbcEureka.Lib.Vec

namespace SolanaGmp

open Txn

/-! ## Decoding the ABI payload -/

/-- `ISolanaGMPMsgs.GMPSolanaPayload`, the ABI struct that `GmpSolanaPayloadAbi` is on Solana. -/
structure GMPSolanaPayloadAbi where
  packedAccounts : Bytes
  instructionData : Bytes
  prefundLamports : UInt64
  deriving DecidableEq, Repr

/-- The struct as a value of `abi.encode`. -/
def GMPSolanaPayloadAbi.toAbi (p : GMPSolanaPayloadAbi) : Abi.Value :=
  .tuple [.bytes p.packedAccounts, .bytes p.instructionData, .uint p.prefundLamports.toNat]

/-- The struct's encoding is shorter than what its offset and length words can address. -/
def GMPSolanaPayloadAbi.Bounded (p : GMPSolanaPayloadAbi) : Prop := (Abi.encode [p.toAbi]).length < 256 ^ 32

/-- A decoder of the struct reads back every `abi.encode` of it: what alloy's `abi_decode` does. -/
def AbiDecodes (abiDecode : Bytes → Option GMPSolanaPayloadAbi) : Prop :=
  ∀ p : GMPSolanaPayloadAbi, p.Bounded → abiDecode (Abi.encode [p.toAbi]) = some p

/-- The standard ABI reading of the struct, following the offsets: the struct's, its members', and
the integer, which must fit a `uint64`. -/
def readPayloadAbi (bs : Bytes) : Option GMPSolanaPayloadAbi := do
  let t := Abi.word bs 0
  let packedAccounts ← Abi.bytesAt bs (t + Abi.word bs t)
  let instructionData ← Abi.bytesAt bs (t + Abi.word bs (t + 32))
  let prefundLamports := Abi.word bs (t + 64)
  if prefundLamports < 2 ^ 64 then some ⟨packedAccounts, instructionData, UInt64.ofNat prefundLamports⟩
  else none

/-- The standard reading is such a decoder. -/
theorem readPayloadAbi_encode : AbiDecodes readPayloadAbi := by
  rintro ⟨a, b, n⟩ hbound
  have hn : n.toNat < 256 ^ 32 := lt_trans n.toNat_lt (by norm_num)
  rw [GMPSolanaPayloadAbi.Bounded, GMPSolanaPayloadAbi.toAbi, Abi.encode_bytes_bytes_uint] at hbound
  rw [GMPSolanaPayloadAbi.toAbi, Abi.encode_bytes_bytes_uint]
  -- the encoding's length bounds every offset and length in it
  simp only [List.length_append, Bytes.be_length] at hbound
  have ha : a.length < 256 ^ 32 := by simp only [Abi.enc_bytes, List.length_append, Bytes.be_length] at hbound; omega
  have hb : b.length < 256 ^ 32 := by simp only [Abi.enc_bytes, List.length_append, Bytes.be_length] at hbound; omega
  -- the four words of the head, and the two members after them, each read where it stands
  have h0 := Abi.word_append [] (Bytes.be 32 96 ++ Bytes.be 32 (96 + (Abi.Value.bytes a).enc.length) ++
    Bytes.be 32 n.toNat ++ (Abi.Value.bytes a).enc ++ (Abi.Value.bytes b).enc) (n := 32) (by norm_num)
  have h1 := Abi.word_append (Bytes.be 32 32) (Bytes.be 32 (96 + (Abi.Value.bytes a).enc.length) ++
    Bytes.be 32 n.toNat ++ (Abi.Value.bytes a).enc ++ (Abi.Value.bytes b).enc) (n := 96) (by norm_num)
  have hlen : 96 + (Abi.Value.bytes a).enc.length < 256 ^ 32 := by omega
  have h2 := Abi.word_append (Bytes.be 32 32 ++ Bytes.be 32 96)
    (Bytes.be 32 n.toNat ++ (Abi.Value.bytes a).enc ++ (Abi.Value.bytes b).enc) hlen
  have h3 := Abi.word_append (Bytes.be 32 32 ++ Bytes.be 32 96 ++ Bytes.be 32 (96 + (Abi.Value.bytes a).enc.length))
    ((Abi.Value.bytes a).enc ++ (Abi.Value.bytes b).enc) hn
  have ha' := Abi.bytesAt_append (Bytes.be 32 32 ++ Bytes.be 32 96 ++
    Bytes.be 32 (96 + (Abi.Value.bytes a).enc.length) ++ Bytes.be 32 n.toNat) (Abi.Value.bytes b).enc ha
  have hb' := Abi.bytesAt_append (Bytes.be 32 32 ++ Bytes.be 32 96 ++
    Bytes.be 32 (96 + (Abi.Value.bytes a).enc.length) ++ Bytes.be 32 n.toNat ++ (Abi.Value.bytes a).enc) [] hb
  simp only [List.append_assoc, List.length_append, Bytes.be_length, List.nil_append, List.append_nil,
    List.length_nil] at h0 h1 h2 h3 ha' hb' ⊢
  have hpos : 32 + (96 + (Abi.Value.bytes a).enc.length) = 32 + (32 + (32 + (32 + (Abi.Value.bytes a).enc.length))) := by
    omega
  simp [readPayloadAbi, h0, h1, h2, h3, ha', n.toNat_lt]
  rw [hpos, hb']
  rfl

/-- `PACKED_ACCOUNT_SIZE`: the key, `is_signer` and `is_writable`. -/
def packedAccountSize : ℕ := 34

/-- The variant of `GMPError` the ABI decoding raises; `decode_raw` reports it as
`InvalidSolanaPayload`. -/
inductive AbiError
  | InvalidAbiEncoding
  deriving DecidableEq, Repr

/-- `parse_bool_byte`. -/
def parseBoolByte (byte : UInt8) : Except AbiError Bool :=
  if byte = 0 then .ok false else if byte = 1 then .ok true else .error .InvalidAbiEncoding

/-- The closure of `try_from` that reads one 34-byte chunk: the key, then the two flags. -/
def unpackEntry (chunk : Bytes) : Except AbiError RawSolanaAccountMeta := do
  let isSigner ← parseBoolByte (chunk.getD 32 0)
  let isWritable ← parseBoolByte (chunk.getD 33 0)
  pure ⟨chunk.take 32, isSigner, isWritable⟩

/-- `RawGmpSolanaPayload::try_from(GmpSolanaPayloadAbi)`: the packed accounts cut into whole
entries, each a key and two flag bytes; the data and the prefund as they are. -/
def RawGmpSolanaPayload.tryFromAbi (abi : GMPSolanaPayloadAbi) : Except AbiError RawGmpSolanaPayload := do
  let chunks := Vec.chunksExact packedAccountSize abi.packedAccounts
  require (chunks.2 = []) .InvalidAbiEncoding
  let accounts ← chunks.1.mapM unpackEntry
  pure ⟨abi.instructionData, accounts, abi.prefundLamports.toNat⟩

/-- `decode_abi_to_raw(data)`: alloy's `abi_decode` of the struct, then the unpacking. -/
def decodeAbiToRaw (abiDecode : Bytes → Option GMPSolanaPayloadAbi) (data : Bytes) :
    Except AbiError RawGmpSolanaPayload := do
  let decoded ← expect (abiDecode data) .InvalidAbiEncoding
  RawGmpSolanaPayload.tryFromAbi decoded

/-- `gmp_solana_payload::decode_raw(value, encoding)`; the protobuf decoder is an input. -/
def decodeRaw (abiDecode : Bytes → Option GMPSolanaPayloadAbi) (protoDecode : Bytes → Option RawGmpSolanaPayload)
    (value encoding : Bytes) : Except GMPError RawGmpSolanaPayload :=
  if encoding = ics27EncodingAbi then (decodeAbiToRaw abiDecode value).mapError fun _ => .InvalidSolanaPayload
  else if encoding = ics27EncodingProtobuf then expect (protoDecode value) .InvalidSolanaPayload
  else .error .InvalidEncoding

/-! ## What the unpacking accepts -/

/-- The 34 bytes of a packed account entry. -/
def RawSolanaAccountMeta.packed (m : RawSolanaAccountMeta) : Bytes :=
  m.pubkey ++ [m.isSigner.toUInt8, m.isWritable.toUInt8]

theorem parseBoolByte_eq_ok {byte : UInt8} {b : Bool} : parseBoolByte byte = .ok b ↔ byte = b.toUInt8 := by
  unfold parseBoolByte
  cases b <;> split_ifs <;> simp_all [Bool.toUInt8]

theorem unpackEntry_eq_ok {chunk : Bytes} (hlen : chunk.length = packedAccountSize) {m : RawSolanaAccountMeta} :
    unpackEntry chunk = .ok m ↔ m.pubkey.length = 32 ∧ chunk = m.packed := by
  -- a chunk of 34 bytes is its first 32 and its last two
  obtain ⟨key, rest, rfl, hkey⟩ : ∃ key rest, chunk = key ++ rest ∧ key.length = 32 :=
    ⟨chunk.take 32, chunk.drop 32, (List.take_append_drop 32 chunk).symm, by simp [hlen, packedAccountSize]⟩
  obtain ⟨s, w, rfl⟩ : ∃ s w, rest = [s, w] := by
    have hrest : rest.length = 2 := by simp only [List.length_append, hkey, packedAccountSize] at hlen; omega
    match rest, hrest with
    | [s, w], _ => exact ⟨s, w, rfl⟩
  have hs : (key ++ [s, w]).getD 32 0 = s := by simp [List.getD_eq_getElem?_getD, hkey]
  have hw : (key ++ [s, w]).getD 33 0 = w := by simp [List.getD_eq_getElem?_getD, hkey]
  have htake : (key ++ [s, w]).take 32 = key := by rw [← hkey, List.take_left]
  rw [unpackEntry, hs, hw, htake, RawSolanaAccountMeta.packed, bind_eq_ok]
  constructor
  · rintro ⟨isSigner, hsigner, hrest⟩
    obtain ⟨isWritable, hwritable, hm⟩ := bind_eq_ok.mp hrest
    rw [pure_eq_ok] at hm
    subst hm
    exact ⟨hkey, by rw [parseBoolByte_eq_ok.mp hsigner, parseBoolByte_eq_ok.mp hwritable]⟩
  · rintro ⟨hpubkey, hchunk⟩
    obtain ⟨rfl, hflags⟩ := List.append_inj hchunk (by rw [hkey, hpubkey])
    simp only [List.cons.injEq, and_true] at hflags
    obtain ⟨rfl, rfl⟩ := hflags
    exact ⟨m.isSigner, parseBoolByte_eq_ok.mpr rfl,
      bind_eq_ok.mpr ⟨m.isWritable, parseBoolByte_eq_ok.mpr rfl, rfl⟩⟩

/-- **What the unpacking accepts.** The packed accounts are unpacked exactly when they are whole
entries, each a 32-byte key and two flag bytes 0 or 1, and the entries read are those, in order;
the data and the prefund pass as they are. -/
theorem tryFromAbi_eq_ok {abi : GMPSolanaPayloadAbi} {raw : RawGmpSolanaPayload} :
    RawGmpSolanaPayload.tryFromAbi abi = .ok raw ↔
      (∀ m ∈ raw.accounts, m.pubkey.length = 32) ∧ (raw.accounts.map RawSolanaAccountMeta.packed).flatten =
        abi.packedAccounts ∧ raw.data = abi.instructionData ∧ raw.prefundLamports = abi.prefundLamports.toNat := by
  have hsize : 0 < packedAccountSize := by decide
  obtain ⟨hchunks, -, hcat⟩ := Vec.chunksExact_spec hsize abi.packedAccounts
  simp only [RawGmpSolanaPayload.tryFromAbi]
  rw [require_bind_eq_ok, bind_eq_ok]
  simp only [pure_eq_ok, mapM_eq_ok]
  constructor
  · rintro ⟨hrem, accounts, hentries, rfl⟩
    -- each chunk is the packing of the entry read from it
    have hchunks_eq : (Vec.chunksExact packedAccountSize abi.packedAccounts).1 =
        accounts.map RawSolanaAccountMeta.packed := by
      rw [← List.forall₂_eq_eq_eq, List.forall₂_map_right_iff]
      exact ((List.forall₂_and_left _ _).mpr ⟨hchunks, hentries⟩).imp
        fun _ _ h => ((unpackEntry_eq_ok h.1).mp h.2).2
    refine ⟨fun m hm => ?_, ?_, rfl, rfl⟩
    · have hm34 := hchunks _ (hchunks_eq ▸ List.mem_map_of_mem hm)
      simpa [RawSolanaAccountMeta.packed, packedAccountSize] using hm34
    · rw [← hcat, hrem, List.append_nil, hchunks_eq]
  · rintro ⟨hkeys, hpacked, hdata, hprefund⟩
    have hsplit : Vec.chunksExact packedAccountSize abi.packedAccounts =
        (raw.accounts.map RawSolanaAccountMeta.packed, []) := by
      rw [← hpacked]
      refine Vec.chunksExact_flatten hsize fun c hc => ?_
      obtain ⟨m, hm, rfl⟩ := List.mem_map.mp hc
      simp [RawSolanaAccountMeta.packed, hkeys m hm, packedAccountSize]
    refine ⟨by rw [hsplit], raw.accounts, ?_, by rw [← hdata, ← hprefund]⟩
    rw [hsplit, List.forall₂_map_left_iff]
    refine List.forall₂_same.mpr fun m hm => (unpackEntry_eq_ok ?_).mpr ⟨hkeys m hm, rfl⟩
    simp [RawSolanaAccountMeta.packed, hkeys m hm, packedAccountSize]

end SolanaGmp

namespace SolanaIft

open Txn SolanaGmp

/-! ## The `ift_mint` call -/

/-- `"global:"`, the namespace of Anchor's instruction discriminators. -/
def globalNamespace : Bytes := [0x67, 0x6c, 0x6f, 0x62, 0x61, 0x6c, 0x3a]

/-- `"ift_mint"`. -/
def iftMintName : Bytes := [0x69, 0x66, 0x74, 0x5f, 0x6d, 0x69, 0x6e, 0x74]

/-- Anchor's discriminator of an instruction: the first 8 bytes of `sha256("global:<name>")`. -/
def instructionDiscriminator (H : Hashes) (name : Bytes) : Bytes := (H.sha256 (globalNamespace ++ name)).take 8

/-- `IFTMintMsg`'s borsh deserialization as Anchor reads an instruction's arguments: a 32-byte key,
then a little-endian `u64`; bytes after them are left unread. -/
def MintMsg.deserialize (data : Bytes) : Option MintMsg :=
  if 40 ≤ data.length then some ⟨data.take 32, Bytes.beNat ((data.drop 32).take 8).reverse⟩ else none

/-- Anchor's dispatch of instruction data to `ift_mint`: its discriminator, then its arguments. -/
def decodeIftMint (H : Hashes) (data : Bytes) : Option MintMsg :=
  if data.take 8 = instructionDiscriminator H iftMintName then MintMsg.deserialize (data.drop 8) else none

/-- The accounts of `IFTMint`, in their order. -/
structure IFTMintAccounts where
  appState : Pubkey
  appMintState : Pubkey
  iftBridge : Pubkey
  mint : Pubkey
  mintAuthority : Pubkey
  receiverTokenAccount : Pubkey
  receiverOwner : Pubkey
  gmpAccount : Pubkey
  payer : Pubkey
  tokenProgram : Pubkey
  associatedTokenProgram : Pubkey
  systemProgram : Pubkey
  deriving DecidableEq, Repr

/-- Anchor's errors of binding the accounts. -/
inductive AnchorError
  | AccountNotEnoughKeys
  | AccountNotSigner
  | ConstraintMut
  deriving DecidableEq, Repr

/-- Anchor's `try_accounts` for `IFTMint`, by position: too few accounts fail, the two `Signer`s
must sign, and what is `mut` (the receiver's token account through `init_if_needed`) must be
writable. The seeds, address and token-account constraints are those of `iftMint`'s inputs. -/
def IFTMintAccounts.tryAccounts : List AccountMeta → Except AnchorError IFTMintAccounts
  | appState :: appMintState :: iftBridge :: mint :: mintAuthority :: receiverTokenAccount :: receiverOwner ::
      gmpAccount :: payer :: tokenProgram :: associatedTokenProgram :: systemProgram :: _ => do
    require (gmpAccount.isSigner = true) .AccountNotSigner
    require (payer.isSigner = true) .AccountNotSigner
    require (appMintState.isWritable = true) .ConstraintMut
    require (mint.isWritable = true) .ConstraintMut
    require (receiverTokenAccount.isWritable = true) .ConstraintMut
    require (payer.isWritable = true) .ConstraintMut
    pure ⟨appState.pubkey, appMintState.pubkey, iftBridge.pubkey, mint.pubkey, mintAuthority.pubkey,
      receiverTokenAccount.pubkey, receiverOwner.pubkey, gmpAccount.pubkey, payer.pubkey, tokenProgram.pubkey,
      associatedTokenProgram.pubkey, systemProgram.pubkey⟩
  | _ => .error .AccountNotEnoughKeys

end SolanaIft
