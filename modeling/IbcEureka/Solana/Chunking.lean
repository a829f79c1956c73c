/-
# Chunked packets and proofs on Solana

A transaction is too small for a large payload or proof, so a relayer may
upload it in chunks of at most 900 bytes, each in an account of its own at the
address of `payload_chunk` (or `proof_chunk`), the relayer's key, the client
id, the sequence and the indices. `recv_packet`, `ack_packet` and
`timeout_packet` then reassemble the packet from the accounts passed after
their named ones (`validate_and_reconstruct_packet`, `assemble_proof_chunks`):
each must be at the expected address, owned by the router, of the right type
and carry the expected fields. The chunks read are then zero-filled, and stay
so until `cleanup_chunks` closes them.

Whatever happens to a chunk account, the packet accounts are untouched: every
account these functions write was first checked to be at a chunk address
(`forEachChunk_view` and its callers).

Reassembly reads the remaining accounts in one order: the chunks of payload 0,
of payload 1, …, then those of the proof (`chunkAccountKeys`); the application
gets what follows them. With every chunk stored, that order gives each payload
its chunks end to end (`assembleMultiplePayloads_of_stored`); any order that
succeeds is that one (`chunkedReassembly_keys`); and zero-filled chunks are not
read twice (`chunkedReassembly_replay`). Payload indices are cast to `u8`, so
the chunks of payloads 256 apart share their addresses: the first statement
holds for at most 256 payloads.

Key definitions: `Ics26Router.forEachChunk`, `Ics26Router.validateAndReconstructPacket`,
`Ics26Router.assembleProofChunks`, `Ics26Router.chunkAccountKeys`.
Key theorems: `Ics26Router.validateAndReconstructPacket_ok`, `Ics26Router.assembleProofChunks_view`,
`Ics26Router.chunkedReassembly_ok`, `Ics26Router.chunked_packet_reassembly`.
-/
import IbcEureka.Solana.RouterState

namespace Ics26Router

open Txn

/-- `CHUNK_DATA_SIZE`. -/
def chunkDataSize : ℕ := 900

/-- `Delivery`: a payload or proof given in the instruction or uploaded in chunks. -/
inductive Delivery
  | inline (data : Bytes)
  | chunked (totalChunks : UInt8)
  deriving DecidableEq, Repr

/-- `Delivery::total_chunks`. -/
def Delivery.totalChunks : Delivery → UInt8
  | .inline _ => 0
  | .chunked totalChunks => totalChunks

/-- Whether a delivery is inline. -/
def Delivery.isInline : Delivery → Bool
  | .inline _ => true
  | .chunked _ => false

/-- The data of an inline delivery; a chunked one is `unreachable!`. -/
def Delivery.inlineData : Delivery → Except Fail Bytes
  | .inline data => .ok data
  | .chunked _ => .error .panic

/-- The chunk count of a chunked delivery; an inline one among chunked ones is refused. -/
def Delivery.chunkedTotal : Delivery → Except Fail UInt8
  | .chunked totalChunks => .ok totalChunks
  | .inline _ => .error (.router .MixedDeliveryModes)

/-- `MsgPayload`: a payload whose value is delivered inline or in chunks. -/
structure MsgPayload where
  sourcePort : Bytes
  destPort : Bytes
  version : Bytes
  encoding : Bytes
  data : Delivery
  deriving DecidableEq, Repr

/-- The payload a `MsgPayload` stands for, once its value is known. -/
def MsgPayload.toPayload (payload : MsgPayload) (value : Bytes) : Payload :=
  ⟨payload.sourcePort, payload.destPort, payload.version, payload.encoding, value⟩

/-- `MsgPacket`. -/
structure MsgPacket where
  sequence : UInt64
  sourceClient : Bytes
  destClient : Bytes
  timeoutTimestamp : UInt64
  payloads : List MsgPayload
  deriving DecidableEq, Repr

/-- `validate_uniform_delivery`: every two neighbours are of the same mode. -/
def uniformDelivery : List Delivery → Bool
  | a :: b :: rest => (a.isInline == b.isInline) && uniformDelivery (b :: rest)
  | _ => true

/-- `total_payload_chunks`. -/
def totalPayloadChunks (payloads : List MsgPayload) : Except Fail ℕ := do
  require (uniformDelivery (payloads.map MsgPayload.data)) (.router .MixedDeliveryModes)
  pure (payloads.map fun p => p.data.totalChunks.toNat).sum

/-- `filter_app_remaining_accounts`: the accounts after the chunk accounts, which the application
gets. -/
def filterAppRemainingAccounts (remaining : List Bytes) (totalPayloadChunks : ℕ) (proofTotalChunks : UInt8) :
    List Bytes :=
  if totalPayloadChunks + proofTotalChunks.toNat < remaining.length then
    remaining.drop (totalPayloadChunks + proofTotalChunks.toNat)
  else []

/-! ## Checking chunk accounts -/

/-- The loop of `cleanup_payload_chunks`, `cleanup_proof_chunks` and `cleanup_chunks`: the
`i`th account of `keys` must be at the address of the `i`th seeds and owned by the router;
its data then become `v` (zero-filled, or closed). -/
def forEachChunk (v : Option Account) : Accounts → List Bytes → List (List Bytes) → Except Fail Accounts
  | accts, _, [] => .ok accts
  | _, [], _ :: _ => .error (.router .InvalidChunkCount)
  | accts, key :: keys, seeds :: rest => do
    let expected ← address seeds
    require (key = expected) (.router .InvalidChunkAccount)
    require (accts key).isSome (.router .InvalidAccountOwner)
    forEachChunk v (Function.update accts key v) keys rest

theorem forEachChunk_view (v : Option Account) :
    ∀ (accts : Accounts) (keys : List Bytes) (seedss : List (List Bytes)) {accts' : Accounts},
      (∀ seeds ∈ seedss, OffPacket seeds.flatten) → forEachChunk v accts keys seedss = .ok accts' →
      view accts' = view accts
  | accts, _, [], _, _, h => by
    simp only [forEachChunk, Except.ok.injEq] at h
    rw [h]
  | _, [], _ :: _, _, _, h => by simp [forEachChunk] at h
  | accts, key :: keys, seeds :: rest, accts', hoff, h => by
    simp only [forEachChunk, address, bind_eq_ok, expect_eq_ok, require_eq_ok, exists_const] at h
    obtain ⟨expected, hexp, hkey, -, h⟩ := h
    have hflat : key = seeds.flatten := hkey.trans (Pda.derive_eq_some hexp)
    have hrest := forEachChunk_view v _ keys rest (fun s hs => hoff s (List.mem_cons_of_mem _ hs)) h
    rw [hrest, hflat]
    exact view_update_of_offPacket accts v (hoff seeds List.mem_cons_self)

/-- The seeds of the chunks of payload `payloadIndex`, in order. -/
def payloadChunkSeedsList (submitter clientId : Bytes) (sequence : UInt64) (payloadIndex totalChunks : UInt8) :
    List (List Bytes) :=
  (List.range totalChunks.toNat).map fun i => payloadChunkSeeds submitter clientId sequence payloadIndex (UInt8.ofNat i)

/-- The seeds of the chunks of a proof, in order. -/
def proofChunkSeedsList (submitter clientId : Bytes) (sequence : UInt64) (totalChunks : UInt8) : List (List Bytes) :=
  (List.range totalChunks.toNat).map fun i => proofChunkSeeds submitter clientId sequence (UInt8.ofNat i)

theorem payloadChunkSeedsList_offPacket (submitter clientId : Bytes) (sequence : UInt64)
    (payloadIndex totalChunks : UInt8) :
    ∀ seeds ∈ payloadChunkSeedsList submitter clientId sequence payloadIndex totalChunks, OffPacket seeds.flatten := by
  intro seeds hs
  obtain ⟨i, -, rfl⟩ := List.mem_map.mp hs
  exact offPacket_payloadChunk _ _ _ _ _

theorem proofChunkSeedsList_offPacket (submitter clientId : Bytes) (sequence : UInt64) (totalChunks : UInt8) :
    ∀ seeds ∈ proofChunkSeedsList submitter clientId sequence totalChunks, OffPacket seeds.flatten := by
  intro seeds hs
  obtain ⟨i, -, rfl⟩ := List.mem_map.mp hs
  exact offPacket_proofChunk _ _ _ _

/-! ## Reading chunk accounts -/

/-- One chunk read: the account at position `index` of the remaining accounts must be at the
address of `seeds` and owned by the router; `decode` deserializes it and checks its fields. -/
def readChunk (accts : Accounts) (remaining : List Bytes) (index : ℕ) (seeds : List Bytes)
    (decode : Account → Except Fail Bytes) : Except Fail Bytes := do
  let key ← expect remaining[index]? (.router .InvalidChunkCount)
  let expected ← address seeds
  require (key = expected) (.router .InvalidChunkAccount)
  match accts key with
  | none => .error (.router .InvalidAccountOwner)
  | some acct => decode acct

/-- `PayloadChunk::try_deserialize` and the four `require_eq!` on its fields. -/
def decodePayloadChunk (clientId : Bytes) (sequence : UInt64) (payloadIndex chunkIndex : UInt8) :
    Account → Except Fail Bytes
  | .payloadChunk chunkClientId chunkSequence chunkPayloadIndex chunkChunkIndex chunkData => do
    require (chunkClientId = clientId ∧ chunkSequence = sequence ∧ chunkPayloadIndex = payloadIndex ∧
      chunkChunkIndex = chunkIndex) .requireEqViolated
    pure chunkData
  | _ => .error .accountDiscriminatorMismatch

/-- `ProofChunk::try_deserialize` and the three `require_eq!` on its fields. -/
def decodeProofChunk (clientId : Bytes) (sequence : UInt64) (chunkIndex : UInt8) : Account → Except Fail Bytes
  | .proofChunk chunkClientId chunkSequence chunkChunkIndex chunkData => do
    require (chunkClientId = clientId ∧ chunkSequence = sequence ∧ chunkChunkIndex = chunkIndex) .requireEqViolated
    pure chunkData
  | _ => .error .accountDiscriminatorMismatch

/-- `cleanup_payload_chunks`: the count must match, then every chunk is zero-filled. -/
def cleanupPayloadChunks (accts : Accounts) (chunkAccounts : List Bytes) (submitter clientId : Bytes)
    (sequence : UInt64) (payloadIndex totalChunks : UInt8) : Except Fail Accounts := do
  require (chunkAccounts.length < 256 ∧ totalChunks.toNat = chunkAccounts.length) (.router .InvalidChunkCount)
  forEachChunk (some .zeroed) accts chunkAccounts (payloadChunkSeedsList submitter clientId sequence payloadIndex totalChunks)

/-- `cleanup_proof_chunks`. -/
def cleanupProofChunks (accts : Accounts) (chunkAccounts : List Bytes) (submitter clientId : Bytes)
    (sequence : UInt64) (totalChunks : UInt8) : Except Fail Accounts :=
  forEachChunk (some .zeroed) accts chunkAccounts (proofChunkSeedsList submitter clientId sequence totalChunks)

/-- `assemble_single_payload_chunks`: the payload's data, and the accounts with its chunks
zero-filled. -/
def assembleSinglePayloadChunks (accts : Accounts) (remaining : List Bytes) (submitter clientId : Bytes)
    (sequence : UInt64) (payloadIndex totalChunks : UInt8) (startIndex : ℕ) : Except Fail (Accounts × Bytes) := do
  let chunks ← (List.range totalChunks.toNat).mapM fun i =>
    readChunk accts remaining (startIndex + i)
      (payloadChunkSeeds submitter clientId sequence payloadIndex (UInt8.ofNat i))
      (decodePayloadChunk clientId sequence payloadIndex (UInt8.ofNat i))
  let accts' ← cleanupPayloadChunks accts ((remaining.drop startIndex).take totalChunks.toNat) submitter clientId
    sequence payloadIndex totalChunks
  pure (accts', chunks.flatten)

/-- `assemble_multiple_payloads`, from payload `payloadIndex` on, whose chunks start at
`accountOffset` in the remaining accounts. -/
def assembleMultiplePayloads (remaining : List Bytes) (submitter clientId : Bytes) (sequence : UInt64) :
    Accounts → ℕ → ℕ → List MsgPayload → Except Fail (Accounts × List Bytes)
  | accts, _, _, [] => .ok (accts, [])
  | accts, payloadIndex, accountOffset, payload :: payloads => do
    let totalChunks ← payload.data.chunkedTotal
    let first ← assembleSinglePayloadChunks accts remaining submitter clientId sequence (UInt8.ofNat payloadIndex)
      totalChunks accountOffset
    let rest ← assembleMultiplePayloads remaining submitter clientId sequence first.1 (payloadIndex + 1)
      (accountOffset + totalChunks.toNat) payloads
    pure (rest.1, first.2 :: rest.2)

/-- The payloads of `validate_and_reconstruct_packet`: all inline, or all reassembled from
chunks. -/
def reconstructPayloads (accts : Accounts) (msgPacket : MsgPacket) (remaining : List Bytes)
    (submitter clientId : Bytes) : Except Fail (Accounts × List Payload) :=
  if (msgPacket.payloads.head?.map fun p => p.data.isInline) = some true then do
    let payloads ← msgPacket.payloads.mapM fun p => do
      let data ← p.data.inlineData
      pure (p.toPayload data)
    pure (accts, payloads)
  else do
    let chunked ← assembleMultiplePayloads remaining submitter clientId msgPacket.sequence accts 0 0
      msgPacket.payloads
    pure (chunked.1, List.zipWith MsgPayload.toPayload msgPacket.payloads chunked.2)

/-- `validate_and_reconstruct_packet`: the packet of the message, with its payloads. -/
def validateAndReconstructPacket (accts : Accounts) (msgPacket : MsgPacket) (remaining : List Bytes)
    (submitter clientId : Bytes) : Except Fail (Accounts × Packet) := do
  require (msgPacket.payloads ≠ []) (.router .InvalidPayloadCount)
  require (uniformDelivery (msgPacket.payloads.map MsgPayload.data)) (.router .MixedDeliveryModes)
  let assembled ← reconstructPayloads accts msgPacket remaining submitter clientId
  pure (assembled.1, ⟨msgPacket.sequence, msgPacket.sourceClient, msgPacket.destClient,
    msgPacket.timeoutTimestamp, assembled.2⟩)

/-- `assemble_proof_chunks`: an inline proof as it is, a chunked one reassembled. -/
def assembleProofChunks (accts : Accounts) (remaining : List Bytes) (submitter clientId : Bytes)
    (sequence : UInt64) (delivery : Delivery) (startIndex : ℕ) : Except Fail (Accounts × Bytes) :=
  match delivery with
  | .inline data => .ok (accts, data)
  | .chunked totalChunks => do
    let chunks ← (List.range totalChunks.toNat).mapM fun i =>
      readChunk accts remaining (startIndex + i) (proofChunkSeeds submitter clientId sequence (UInt8.ofNat i))
        (decodeProofChunk clientId sequence (UInt8.ofNat i))
    let accts' ← cleanupProofChunks accts ((remaining.drop startIndex).take totalChunks.toNat) submitter clientId
      sequence totalChunks
    pure (accts', chunks.flatten)

/-! ## The packet accounts are never touched -/

variable {accts accts' : Accounts} {remaining : List Bytes} {submitter clientId : Bytes} {sequence : UInt64}

theorem cleanupPayloadChunks_view {chunkAccounts : List Bytes} {payloadIndex totalChunks : UInt8}
    (h : cleanupPayloadChunks accts chunkAccounts submitter clientId sequence payloadIndex totalChunks = .ok accts') :
    view accts' = view accts := by
  simp only [cleanupPayloadChunks, bind_eq_ok, require_eq_ok, exists_const] at h
  exact forEachChunk_view _ _ _ _ (payloadChunkSeedsList_offPacket _ _ _ _ _) h.2

theorem assembleSinglePayloadChunks_view {payloadIndex totalChunks : UInt8} {startIndex : ℕ} {data : Bytes}
    (h : assembleSinglePayloadChunks accts remaining submitter clientId sequence payloadIndex totalChunks startIndex =
      .ok (accts', data)) : view accts' = view accts := by
  simp only [assembleSinglePayloadChunks, bind_eq_ok, pure_eq_ok, Prod.mk.injEq] at h
  obtain ⟨_, -, accts'', hclean, rfl, -⟩ := h
  exact cleanupPayloadChunks_view hclean

theorem assembleMultiplePayloads_view :
    ∀ (accts : Accounts) (payloadIndex accountOffset : ℕ) (payloads : List MsgPayload) {accts' : Accounts}
      {datas : List Bytes},
      assembleMultiplePayloads remaining submitter clientId sequence accts payloadIndex accountOffset payloads =
        .ok (accts', datas) → view accts' = view accts
  | accts, _, _, [], _, _, h => by
    simp only [assembleMultiplePayloads, Except.ok.injEq, Prod.mk.injEq] at h
    rw [h.1]
  | accts, payloadIndex, accountOffset, payload :: payloads, accts', datas, h => by
    simp only [assembleMultiplePayloads, bind_eq_ok, pure_eq_ok] at h
    obtain ⟨totalChunks, -, ⟨accts₁, data⟩, hfirst, ⟨accts₂, rest⟩, hrest, hout⟩ := h
    obtain ⟨rfl, -⟩ := Prod.mk.inj hout
    rw [assembleMultiplePayloads_view accts₁ _ _ payloads hrest]
    exact assembleSinglePayloadChunks_view hfirst

theorem reconstructPayloads_view {msgPacket : MsgPacket} {payloads : List Payload}
    (h : reconstructPayloads accts msgPacket remaining submitter clientId = .ok (accts', payloads)) :
    view accts' = view accts := by
  unfold reconstructPayloads at h
  split at h
  · simp only [bind_eq_ok, pure_eq_ok, Prod.mk.injEq] at h
    obtain ⟨_, -, rfl, -⟩ := h
    rfl
  · simp only [bind_eq_ok, pure_eq_ok, Prod.mk.injEq] at h
    obtain ⟨⟨accts₁, datas⟩, hchunked, rfl, -⟩ := h
    exact assembleMultiplePayloads_view _ _ _ _ hchunked

theorem validateAndReconstructPacket_ok {msgPacket : MsgPacket} {P : Packet}
    (h : validateAndReconstructPacket accts msgPacket remaining submitter clientId = .ok (accts', P)) :
    view accts' = view accts ∧ P.sequence = msgPacket.sequence ∧ P.sourceClient = msgPacket.sourceClient ∧
      P.destClient = msgPacket.destClient ∧ P.timeoutTimestamp = msgPacket.timeoutTimestamp := by
  simp only [validateAndReconstructPacket, bind_eq_ok, require_eq_ok, exists_const, pure_eq_ok] at h
  obtain ⟨-, -, ⟨accts₁, payloads⟩, hassembled, hout⟩ := h
  obtain ⟨rfl, rfl⟩ := Prod.mk.inj hout
  exact ⟨reconstructPayloads_view hassembled, rfl, rfl, rfl, rfl⟩

theorem assembleProofChunks_view {delivery : Delivery} {startIndex : ℕ} {proof : Bytes}
    (h : assembleProofChunks accts remaining submitter clientId sequence delivery startIndex = .ok (accts', proof)) :
    view accts' = view accts := by
  cases delivery with
  | inline data =>
    simp only [assembleProofChunks, Except.ok.injEq, Prod.mk.injEq] at h
    rw [h.1]
  | chunked totalChunks =>
    simp only [assembleProofChunks, bind_eq_ok, pure_eq_ok, Prod.mk.injEq] at h
    obtain ⟨_, -, accts₁, hclean, rfl, -⟩ := h
    exact forEachChunk_view _ _ _ _ (proofChunkSeedsList_offPacket _ _ _ _) hclean

/-! ## Reassembly

Where each chunk sits: the `remaining_accounts` of `recv_packet`, `ack_packet` and
`timeout_packet` begin with the chunks of payload 0, those of payload 1, …, then those of the
proof. -/

/-- The addresses of the chunks of the payloads from `payloadIndex` on, in order. -/
def payloadChunkKeys (submitter clientId : Bytes) (sequence : UInt64) : ℕ → List MsgPayload → List Bytes
  | _, [] => []
  | payloadIndex, payload :: payloads =>
    (payloadChunkSeedsList submitter clientId sequence (UInt8.ofNat payloadIndex) payload.data.totalChunks).map
        List.flatten ++
      payloadChunkKeys submitter clientId sequence (payloadIndex + 1) payloads

/-- The addresses of the chunks of a proof, in order. -/
def proofChunkKeys (submitter clientId : Bytes) (sequence : UInt64) (totalChunks : UInt8) : List Bytes :=
  (proofChunkSeedsList submitter clientId sequence totalChunks).map List.flatten

@[simp] theorem payloadChunkSeedsList_length (submitter clientId : Bytes) (sequence : UInt64)
    (payloadIndex totalChunks : UInt8) :
    (payloadChunkSeedsList submitter clientId sequence payloadIndex totalChunks).length = totalChunks.toNat := by
  simp [payloadChunkSeedsList]

theorem payloadChunkKeys_length (submitter clientId : Bytes) (sequence : UInt64) :
    ∀ (payloadIndex : ℕ) (payloads : List MsgPayload),
      (payloadChunkKeys submitter clientId sequence payloadIndex payloads).length =
        (payloads.map fun p => p.data.totalChunks.toNat).sum
  | _, [] => rfl
  | payloadIndex, payload :: payloads => by
    simp [payloadChunkKeys, payloadChunkKeys_length submitter clientId sequence _ payloads]

@[simp] theorem proofChunkKeys_length (submitter clientId : Bytes) (sequence : UInt64) (totalChunks : UInt8) :
    (proofChunkKeys submitter clientId sequence totalChunks).length = totalChunks.toNat := by
  simp [proofChunkKeys, proofChunkSeedsList]

/-- Chunk seeds are valid seeds when the relayer's key and the client id fit in a seed. -/
theorem address_payloadChunkSeeds {submitter clientId : Bytes} (hs : submitter.length ≤ 32)
    (hc : clientId.length ≤ 32) (sequence : UInt64) (payloadIndex chunkIndex : UInt8) :
    address (payloadChunkSeeds submitter clientId sequence payloadIndex chunkIndex) =
      .ok (payloadChunkSeeds submitter clientId sequence payloadIndex chunkIndex).flatten := by
  simp [address, Pda.derive, payloadChunkSeeds, Pda.maxSeeds, Pda.maxSeedLen, payloadChunkSeed, hs, hc, expect]

theorem address_proofChunkSeeds {submitter clientId : Bytes} (hs : submitter.length ≤ 32)
    (hc : clientId.length ≤ 32) (sequence : UInt64) (chunkIndex : UInt8) :
    address (proofChunkSeeds submitter clientId sequence chunkIndex) =
      .ok (proofChunkSeeds submitter clientId sequence chunkIndex).flatten := by
  simp [address, Pda.derive, proofChunkSeeds, Pda.maxSeeds, Pda.maxSeedLen, proofChunkSeed, hs, hc, expect]

/-- A payload chunk's address gives back its two indices. -/
theorem payloadChunkSeeds_flatten_inj {submitter clientId : Bytes} {sequence : UInt64}
    {payloadIndex payloadIndex' chunkIndex chunkIndex' : UInt8}
    (h : (payloadChunkSeeds submitter clientId sequence payloadIndex chunkIndex).flatten =
      (payloadChunkSeeds submitter clientId sequence payloadIndex' chunkIndex').flatten) :
    payloadIndex = payloadIndex' ∧ chunkIndex = chunkIndex' := by
  simp only [payloadChunkSeeds, List.flatten_cons, List.flatten_nil, List.append_nil] at h
  simpa using h

/-- A payload chunk and a proof chunk never share an address: their first seeds differ in
their third byte. -/
theorem payloadChunkSeeds_ne_proofChunkSeeds (submitter clientId : Bytes) (sequence : UInt64)
    (payloadIndex chunkIndex chunkIndex' : UInt8) :
    (payloadChunkSeeds submitter clientId sequence payloadIndex chunkIndex).flatten ≠
      (proofChunkSeeds submitter clientId sequence chunkIndex').flatten :=
  Pda.flatten_ne_of_take_ne (n := 3) (by decide) (by decide) (by decide)

/-- The `n` entries of `remaining` from `start` on, read one by one. -/
theorem take_drop_eq_map {remaining : List Bytes} {start n : ℕ} {key : ℕ → Bytes}
    (h : ∀ j < n, remaining[start + j]? = some (key j)) :
    (remaining.drop start).take n = (List.range n).map key := by
  apply List.ext_getElem?
  intro j
  by_cases hj : j < n
  · simp [hj, h j hj]
  · simp [hj]

theorem getElem?_of_take_drop_eq {remaining : List Bytes} {start n j : ℕ} {key : ℕ → Bytes}
    (h : (remaining.drop start).take n = (List.range n).map key) (hj : j < n) :
    remaining[start + j]? = some (key j) := by
  have hj' := congrArg (·[j]?) h
  simpa [List.getElem?_take, hj] using hj'

theorem decodePayloadChunk_eq_ok {payloadIndex chunkIndex : UInt8} {acct : Account} {data : Bytes} :
    decodePayloadChunk clientId sequence payloadIndex chunkIndex acct = .ok data ↔
      acct = .payloadChunk clientId sequence payloadIndex chunkIndex data := by
  cases acct with
  | payloadChunk =>
    simp only [decodePayloadChunk, require_bind_eq_ok, pure_eq_ok, Account.payloadChunk.injEq, and_assoc]
  | _ => simp [decodePayloadChunk]

theorem decodeProofChunk_eq_ok {chunkIndex : UInt8} {acct : Account} {data : Bytes} :
    decodeProofChunk clientId sequence chunkIndex acct = .ok data ↔
      acct = .proofChunk clientId sequence chunkIndex data := by
  cases acct with
  | proofChunk =>
    simp only [decodeProofChunk, require_bind_eq_ok, pure_eq_ok, Account.proofChunk.injEq, and_assoc]
  | _ => simp [decodeProofChunk]

theorem readChunk_eq_ok {index : ℕ} {seeds : List Bytes} {decode : Account → Except Fail Bytes} {data : Bytes}
    (hseeds : address seeds = .ok seeds.flatten) :
    readChunk accts remaining index seeds decode = .ok data ↔
      remaining[index]? = some seeds.flatten ∧ ∃ acct, accts seeds.flatten = some acct ∧ decode acct = .ok data := by
  simp only [readChunk, bind_eq_ok, expect_eq_ok, hseeds, Except.ok.injEq, exists_eq_left', require_eq_ok,
    exists_const]
  constructor
  · rintro ⟨key, hkey, rfl, h⟩
    refine ⟨hkey, ?_⟩
    cases hacct : accts seeds.flatten with
    | none => simp [hacct] at h
    | some acct => exact ⟨acct, rfl, by simpa [hacct] using h⟩
  · rintro ⟨hkey, acct, hacct, h⟩
    exact ⟨_, hkey, rfl, by simpa [hacct] using h⟩

/-- **The reading loop.** It reads chunk `i` at position `start + i` for `i < n`, and succeeds
exactly when each of them is there and decodes; the data come back in order. -/
theorem readChunks_eq_ok {n start : ℕ} {seeds : ℕ → List Bytes} {decode : ℕ → Account → Except Fail Bytes}
    (hseeds : ∀ i, address (seeds i) = .ok (seeds i).flatten) {datas : List Bytes} :
    (List.range n).mapM (fun i => readChunk accts remaining (start + i) (seeds i) (decode i)) = .ok datas ↔
      datas.length = n ∧ ∀ i (hi : i < datas.length), remaining[start + i]? = some (seeds i).flatten ∧
        ∃ acct, accts (seeds i).flatten = some acct ∧ decode i acct = .ok datas[i] := by
  rw [mapM_range_eq_ok]
  simp only [readChunk_eq_ok (hseeds _)]

/-- **Zero-filling the chunks.** When every chunk is at its address and owned by the router,
the loop of `cleanup_*_chunks` writes `v` at each of them and nowhere else. -/
theorem forEachChunk_eq_ok_of {v : Option Account} (hv : v.isSome = true) :
    ∀ (accts : Accounts) (seedss : List (List Bytes)), (∀ seeds ∈ seedss, address seeds = .ok seeds.flatten) →
      (∀ seeds ∈ seedss, (accts seeds.flatten).isSome = true) →
      forEachChunk v accts (seedss.map List.flatten) seedss =
        .ok fun k => if k ∈ seedss.map List.flatten then v else accts k
  | accts, [], _, _ => by simp [forEachChunk]
  | accts, seeds :: rest, haddr, hown => by
    -- the first chunk is written, and stays owned for the rest of the loop
    have hown' : ∀ s ∈ rest, (Function.update accts seeds.flatten v s.flatten).isSome = true := by
      intro s hs
      by_cases hk : s.flatten = seeds.flatten
      · simp [hk, hv]
      · simp [Function.update_of_ne hk, hown s (List.mem_cons_of_mem _ hs)]
    have hrest := forEachChunk_eq_ok_of hv (Function.update accts seeds.flatten v) rest
      (fun s hs => haddr s (List.mem_cons_of_mem _ hs)) hown'
    simp only [List.map_cons, forEachChunk, haddr seeds List.mem_cons_self, bind, Except.bind, require,
      if_pos, hown seeds List.mem_cons_self, hrest, Except.ok.injEq]
    funext k
    by_cases hk : k = seeds.flatten
    · simp [hk]
    · by_cases hmem : k ∈ rest.map List.flatten <;> simp [hk, hmem]

theorem payloadChunkSeedsList_map_flatten (submitter clientId : Bytes) (sequence : UInt64)
    (payloadIndex totalChunks : UInt8) :
    (payloadChunkSeedsList submitter clientId sequence payloadIndex totalChunks).map List.flatten =
      (List.range totalChunks.toNat).map fun i =>
        (payloadChunkSeeds submitter clientId sequence payloadIndex (UInt8.ofNat i)).flatten := by
  simp [payloadChunkSeedsList, Function.comp_def]

theorem proofChunkKeys_eq (submitter clientId : Bytes) (sequence : UInt64) (totalChunks : UInt8) :
    proofChunkKeys submitter clientId sequence totalChunks =
      (List.range totalChunks.toNat).map fun i => (proofChunkSeeds submitter clientId sequence (UInt8.ofNat i)).flatten := by
  simp [proofChunkKeys, proofChunkSeedsList, Function.comp_def]

section Stored

variable (hs : submitter.length ≤ 32) (hc : clientId.length ≤ 32)
include hs hc

/-- **One payload reassembled.** With its chunks at the next positions of the remaining
accounts, each holding its part, the payload is their data end to end, and its chunks are
zero-filled. -/
theorem assembleSinglePayloadChunks_of_stored {payloadIndex totalChunks : UInt8} {start : ℕ} (data : ℕ → Bytes)
    (hkeys : (remaining.drop start).take totalChunks.toNat =
      (payloadChunkSeedsList submitter clientId sequence payloadIndex totalChunks).map List.flatten)
    (hstored : ∀ j < totalChunks.toNat,
      accts (payloadChunkSeeds submitter clientId sequence payloadIndex (UInt8.ofNat j)).flatten =
        some (.payloadChunk clientId sequence payloadIndex (UInt8.ofNat j) (data j))) :
    assembleSinglePayloadChunks accts remaining submitter clientId sequence payloadIndex totalChunks start =
      .ok (fun k => if k ∈ (payloadChunkSeedsList submitter clientId sequence payloadIndex totalChunks).map List.flatten
          then some .zeroed else accts k,
        ((List.range totalChunks.toNat).map data).flatten) := by
  have hat := hkeys
  rw [payloadChunkSeedsList_map_flatten] at hat
  have hread : (List.range totalChunks.toNat).mapM (fun i => readChunk accts remaining (start + i)
      (payloadChunkSeeds submitter clientId sequence payloadIndex (UInt8.ofNat i))
      (decodePayloadChunk clientId sequence payloadIndex (UInt8.ofNat i))) =
        .ok ((List.range totalChunks.toNat).map data) := by
    rw [readChunks_eq_ok fun i => address_payloadChunkSeeds hs hc _ _ _]
    refine ⟨by simp, fun i hi => ?_⟩
    rw [List.length_map, List.length_range] at hi
    simp only [List.getElem_map, List.getElem_range]
    exact ⟨getElem?_of_take_drop_eq hat hi, _, hstored i hi, decodePayloadChunk_eq_ok.mpr rfl⟩
  -- every chunk is at its address and owned, so the cleanup zero-fills them all
  have hseeds : ∀ seeds ∈ payloadChunkSeedsList submitter clientId sequence payloadIndex totalChunks,
      address seeds = .ok seeds.flatten ∧ (accts seeds.flatten).isSome = true := by
    intro seeds hmem
    obtain ⟨i, hi, rfl⟩ := List.mem_map.mp hmem
    rw [List.mem_range] at hi
    exact ⟨address_payloadChunkSeeds hs hc _ _ _, by rw [hstored i hi]; rfl⟩
  have hclean := forEachChunk_eq_ok_of (v := some .zeroed) rfl accts _ (fun s hs => (hseeds s hs).1)
    (fun s hs => (hseeds s hs).2)
  have hlt : totalChunks.toNat < 256 := totalChunks.toNat_lt
  simp only [assembleSinglePayloadChunks, hread, cleanupPayloadChunks, hkeys, List.length_map,
    payloadChunkSeedsList_length, hlt, and_true, require, if_true, hclean, bind, Except.bind, pure, Except.pure]

/-- A payload reassembled read each of its chunks at the next positions of the remaining
accounts. -/
theorem assembleSinglePayloadChunks_reads {payloadIndex totalChunks : UInt8} {start : ℕ} {data : Bytes}
    (h : assembleSinglePayloadChunks accts remaining submitter clientId sequence payloadIndex totalChunks start =
      .ok (accts', data)) :
    (remaining.drop start).take totalChunks.toNat =
        (payloadChunkSeedsList submitter clientId sequence payloadIndex totalChunks).map List.flatten ∧
      ∀ j < totalChunks.toNat, ∃ chunkData,
        accts (payloadChunkSeeds submitter clientId sequence payloadIndex (UInt8.ofNat j)).flatten =
          some (.payloadChunk clientId sequence payloadIndex (UInt8.ofNat j) chunkData) := by
  simp only [assembleSinglePayloadChunks, bind_eq_ok] at h
  obtain ⟨chunks, hread, -⟩ := h
  obtain ⟨hlen, hat⟩ := (readChunks_eq_ok fun i => address_payloadChunkSeeds hs hc _ _ _).mp hread
  refine ⟨?_, fun j hj => ?_⟩
  · rw [payloadChunkSeedsList_map_flatten]
    exact take_drop_eq_map fun j hj => (hat j (by omega)).1
  · obtain ⟨-, acct, hacct, hdec⟩ := hat j (by omega)
    rw [decodePayloadChunk_eq_ok] at hdec
    exact ⟨_, hdec ▸ hacct⟩

/-- **The proof reassembled**, in the same way. -/
theorem assembleProofChunks_of_stored {totalChunks : UInt8} {start : ℕ} (data : ℕ → Bytes)
    (hkeys : (remaining.drop start).take totalChunks.toNat = proofChunkKeys submitter clientId sequence totalChunks)
    (hstored : ∀ j < totalChunks.toNat,
      accts (proofChunkSeeds submitter clientId sequence (UInt8.ofNat j)).flatten =
        some (.proofChunk clientId sequence (UInt8.ofNat j) (data j))) :
    assembleProofChunks accts remaining submitter clientId sequence (.chunked totalChunks) start =
      .ok (fun k => if k ∈ proofChunkKeys submitter clientId sequence totalChunks then some .zeroed else accts k,
        ((List.range totalChunks.toNat).map data).flatten) := by
  have hat := hkeys
  rw [proofChunkKeys_eq] at hat
  have hread : (List.range totalChunks.toNat).mapM (fun i => readChunk accts remaining (start + i)
      (proofChunkSeeds submitter clientId sequence (UInt8.ofNat i))
      (decodeProofChunk clientId sequence (UInt8.ofNat i))) =
        .ok ((List.range totalChunks.toNat).map data) := by
    rw [readChunks_eq_ok fun i => address_proofChunkSeeds hs hc _ _]
    refine ⟨by simp, fun i hi => ?_⟩
    rw [List.length_map, List.length_range] at hi
    simp only [List.getElem_map, List.getElem_range]
    exact ⟨getElem?_of_take_drop_eq hat hi, _, hstored i hi, decodeProofChunk_eq_ok.mpr rfl⟩
  have hseeds : ∀ seeds ∈ proofChunkSeedsList submitter clientId sequence totalChunks,
      address seeds = .ok seeds.flatten ∧ (accts seeds.flatten).isSome = true := by
    intro seeds hmem
    obtain ⟨i, hi, rfl⟩ := List.mem_map.mp hmem
    rw [List.mem_range] at hi
    exact ⟨address_proofChunkSeeds hs hc _ _, by rw [hstored i hi]; rfl⟩
  have hclean := forEachChunk_eq_ok_of (v := some .zeroed) rfl accts _ (fun s hs => (hseeds s hs).1)
    (fun s hs => (hseeds s hs).2)
  simp only [assembleProofChunks, hread, cleanupProofChunks, hkeys, proofChunkKeys, hclean, bind, Except.bind,
    pure, Except.pure]
  rfl

theorem assembleProofChunks_reads {totalChunks : UInt8} {start : ℕ} {proof : Bytes}
    (h : assembleProofChunks accts remaining submitter clientId sequence (.chunked totalChunks) start =
      .ok (accts', proof)) :
    (remaining.drop start).take totalChunks.toNat = proofChunkKeys submitter clientId sequence totalChunks ∧
      ∀ j < totalChunks.toNat, ∃ chunkData,
        accts (proofChunkSeeds submitter clientId sequence (UInt8.ofNat j)).flatten =
          some (.proofChunk clientId sequence (UInt8.ofNat j) chunkData) := by
  simp only [assembleProofChunks, bind_eq_ok] at h
  obtain ⟨chunks, hread, -⟩ := h
  obtain ⟨hlen, hat⟩ := (readChunks_eq_ok fun i => address_proofChunkSeeds hs hc _ _).mp hread
  refine ⟨?_, fun j hj => ?_⟩
  · rw [proofChunkKeys_eq]
    exact take_drop_eq_map fun j hj => (hat j (by omega)).1
  · obtain ⟨-, acct, hacct, hdec⟩ := hat j (by omega)
    rw [decodeProofChunk_eq_ok] at hdec
    exact ⟨_, hdec ▸ hacct⟩

end Stored

theorem assembleSinglePayloadChunks_of_zero {payloadIndex totalChunks : UInt8} {start : ℕ} {data : Bytes}
    (h0 : totalChunks.toNat = 0)
    (h : assembleSinglePayloadChunks accts remaining submitter clientId sequence payloadIndex totalChunks start =
      .ok (accts', data)) : accts' = accts := by
  simp only [assembleSinglePayloadChunks, bind_eq_ok, pure_eq_ok, Prod.mk.injEq] at h
  obtain ⟨chunks, -, accts'', hclean, rfl, -⟩ := h
  simp only [cleanupPayloadChunks, payloadChunkSeedsList, h0, List.range_zero, List.map_nil, forEachChunk,
    require_bind_eq_ok, Except.ok.injEq] at hclean
  exact hclean.2.symm

theorem chunkedTotal_eq_ok {delivery : Delivery} {totalChunks : UInt8} (h : delivery.chunkedTotal = .ok totalChunks) :
    delivery = .chunked totalChunks ∧ delivery.totalChunks = totalChunks := by
  cases delivery with
  | inline _ => simp [Delivery.chunkedTotal] at h
  | chunked n =>
    simp only [Delivery.chunkedTotal, Except.ok.injEq] at h
    exact ⟨h ▸ rfl, h⟩

/-- Payloads of different indices below 256 have their chunks at different addresses. -/
theorem payloadChunkKey_not_mem {payloadIndex payloadIndex' : ℕ} (h : payloadIndex < 256) (h' : payloadIndex' < 256)
    (hne : payloadIndex ≠ payloadIndex') (chunkIndex totalChunks : UInt8) :
    (payloadChunkSeeds submitter clientId sequence (UInt8.ofNat payloadIndex') chunkIndex).flatten ∉
      (payloadChunkSeedsList submitter clientId sequence (UInt8.ofNat payloadIndex) totalChunks).map List.flatten := by
  intro hmem
  obtain ⟨seeds, hseeds, heq⟩ := List.mem_map.mp hmem
  obtain ⟨j, -, rfl⟩ := List.mem_map.mp hseeds
  exact hne (Bytes.ofNat_inj h h' (payloadChunkSeeds_flatten_inj heq).1)

theorem payloadChunkKeys_cons (payloadIndex : ℕ) (payload : MsgPayload) (payloads : List MsgPayload) :
    payloadChunkKeys submitter clientId sequence payloadIndex (payload :: payloads) =
      (payloadChunkSeedsList submitter clientId sequence (UInt8.ofNat payloadIndex) payload.data.totalChunks).map
          List.flatten ++ payloadChunkKeys submitter clientId sequence (payloadIndex + 1) payloads := rfl

theorem take_drop_append {remaining keys₀ keys : List Bytes} {start : ℕ} :
    (remaining.drop start).take (keys₀ ++ keys).length = keys₀ ++ keys ↔
      (remaining.drop start).take keys₀.length = keys₀ ∧
        (remaining.drop (start + keys₀.length)).take keys.length = keys := by
  rw [List.length_append, List.take_add, List.drop_drop]
  constructor
  · intro h
    have hlen : ((remaining.drop start).take keys₀.length).length = keys₀.length := by
      have := congrArg List.length h
      simp only [List.length_append, List.length_take, List.length_drop] at this
      simp only [List.length_take, List.length_drop]
      omega
    exact List.append_inj h hlen
  · rintro ⟨h₀, h₁⟩
    rw [h₀, h₁]

section Stored

variable (hs : submitter.length ≤ 32) (hc : clientId.length ≤ 32)
include hs hc

/-- **All the payloads reassembled.** With at most 256 payloads, each chunked, their chunks at
the next positions of the remaining accounts in order and each holding its part, every payload
is its chunks' data end to end, and all the chunks are zero-filled. -/
theorem assembleMultiplePayloads_of_stored (data : ℕ → ℕ → Bytes) :
    ∀ (payloads : List MsgPayload) (accts : Accounts) (payloadIndex accountOffset : ℕ),
      payloadIndex + payloads.length ≤ 256 →
      (∀ p ∈ payloads, p.data = .chunked p.data.totalChunks) →
      (remaining.drop accountOffset).take (payloadChunkKeys submitter clientId sequence payloadIndex payloads).length =
        payloadChunkKeys submitter clientId sequence payloadIndex payloads →
      (∀ i (hi : i < payloads.length), ∀ j < payloads[i].data.totalChunks.toNat,
        accts (payloadChunkSeeds submitter clientId sequence (UInt8.ofNat (payloadIndex + i)) (UInt8.ofNat j)).flatten =
          some (.payloadChunk clientId sequence (UInt8.ofNat (payloadIndex + i)) (UInt8.ofNat j)
            (data (payloadIndex + i) j))) →
      assembleMultiplePayloads remaining submitter clientId sequence accts payloadIndex accountOffset payloads =
        .ok (fun k => if k ∈ payloadChunkKeys submitter clientId sequence payloadIndex payloads then some .zeroed
            else accts k,
          payloads.mapIdx fun i p => ((List.range p.data.totalChunks.toNat).map (data (payloadIndex + i))).flatten)
  | [], accts, _, _, _, _, _, _ => by simp [assembleMultiplePayloads, payloadChunkKeys]
  | payload :: payloads, accts, payloadIndex, accountOffset, hbound, hchunked, hkeys, hstored => by
    rw [payloadChunkKeys_cons, take_drop_append] at hkeys
    obtain ⟨hkeys₀, hkeys⟩ := hkeys
    have hlen₀ : ((payloadChunkSeedsList submitter clientId sequence (UInt8.ofNat payloadIndex)
        payload.data.totalChunks).map List.flatten).length = payload.data.totalChunks.toNat := by simp
    rw [hlen₀] at hkeys₀ hkeys
    have htotal : payload.data.chunkedTotal = .ok payload.data.totalChunks := by
      rw [hchunked payload List.mem_cons_self]
      rfl
    have hfirst := assembleSinglePayloadChunks_of_stored hs hc (data payloadIndex) hkeys₀
      (fun j hj => by simpa using hstored 0 (by simp) j hj)
    -- the chunks of the other payloads are not this one's, so its cleanup left them as they were
    have hrest := assembleMultiplePayloads_of_stored data payloads
      (fun k => if k ∈ (payloadChunkSeedsList submitter clientId sequence (UInt8.ofNat payloadIndex)
        payload.data.totalChunks).map List.flatten then some .zeroed else accts k) (payloadIndex + 1) _
      (by simp only [List.length_cons] at hbound; omega) (fun p hp => hchunked p (List.mem_cons_of_mem _ hp)) hkeys
      (fun i hi j hj => by
        have hnot : (payloadChunkSeeds submitter clientId sequence (UInt8.ofNat (payloadIndex + 1 + i))
            (UInt8.ofNat j)).flatten ∉ (payloadChunkSeedsList submitter clientId sequence (UInt8.ofNat payloadIndex)
              payload.data.totalChunks).map List.flatten :=
          payloadChunkKey_not_mem (show payloadIndex < 256 by simp only [List.length_cons] at hbound; omega)
            (show payloadIndex + 1 + i < 256 by simp only [List.length_cons] at hbound; omega) (by omega) _ _
        have hshift : payloadIndex + (i + 1) = payloadIndex + 1 + i := by omega
        have hat := hstored (i + 1) (by simpa using hi) j (by simpa using hj)
        rw [hshift] at hat
        simp only [hnot, if_false]
        exact hat)
    have hshift : ∀ i, payloadIndex + 1 + i = payloadIndex + (i + 1) := fun i => by omega
    simp only [assembleMultiplePayloads, htotal, hfirst, hrest, bind, Except.bind, pure, Except.pure,
      Except.ok.injEq, Prod.mk.injEq, payloadChunkKeys_cons, List.mapIdx_cons, Nat.add_zero, hshift]
    refine ⟨?_, trivial⟩
    funext k
    by_cases h₀ : k ∈ (payloadChunkSeedsList submitter clientId sequence (UInt8.ofNat payloadIndex)
      payload.data.totalChunks).map List.flatten <;> simp [h₀]

/-- The payloads reassembled read their chunks at the first positions of the remaining
accounts, in order. -/
theorem assembleMultiplePayloads_keys :
    ∀ (payloads : List MsgPayload) (accts : Accounts) (payloadIndex accountOffset : ℕ) {accts' : Accounts}
      {datas : List Bytes},
      assembleMultiplePayloads remaining submitter clientId sequence accts payloadIndex accountOffset payloads =
        .ok (accts', datas) →
      (remaining.drop accountOffset).take (payloadChunkKeys submitter clientId sequence payloadIndex payloads).length =
        payloadChunkKeys submitter clientId sequence payloadIndex payloads
  | [], _, _, _, _, _, _ => by simp [payloadChunkKeys]
  | payload :: payloads, accts, payloadIndex, accountOffset, accts', datas, h => by
    simp only [assembleMultiplePayloads, bind_eq_ok, pure_eq_ok] at h
    obtain ⟨totalChunks, htotal, ⟨accts₁, data₁⟩, hfirst, ⟨accts₂, rest⟩, hrest, -⟩ := h
    obtain ⟨-, rfl⟩ := chunkedTotal_eq_ok htotal
    rw [payloadChunkKeys_cons, take_drop_append]
    have hlen₀ : ((payloadChunkSeedsList submitter clientId sequence (UInt8.ofNat payloadIndex)
        payload.data.totalChunks).map List.flatten).length = payload.data.totalChunks.toNat := by simp
    rw [hlen₀]
    exact ⟨(assembleSinglePayloadChunks_reads hs hc hfirst).1,
      assembleMultiplePayloads_keys payloads accts₁ (payloadIndex + 1) _ hrest⟩

/-- **Consumed chunks are not consumed again.** Once the chunks of the payloads are
zero-filled, reassembling them fails, whatever the remaining accounts. -/
theorem assembleMultiplePayloads_replay :
    ∀ (payloads : List MsgPayload) (accts : Accounts) (payloadIndex accountOffset : ℕ),
      (∀ k ∈ payloadChunkKeys submitter clientId sequence payloadIndex payloads, accts k = some .zeroed) →
      payloadChunkKeys submitter clientId sequence payloadIndex payloads ≠ [] →
      ∀ r, assembleMultiplePayloads remaining submitter clientId sequence accts payloadIndex accountOffset payloads ≠
        .ok r
  | [], _, _, _, _, hne, _, _ => hne rfl
  | payload :: payloads, accts, payloadIndex, accountOffset, hzero, hne, r, h => by
    simp only [assembleMultiplePayloads, bind_eq_ok, pure_eq_ok] at h
    obtain ⟨totalChunks, htotal, ⟨accts₁, data₁⟩, hfirst, ⟨accts₂, rest⟩, hrest, -⟩ := h
    obtain ⟨-, rfl⟩ := chunkedTotal_eq_ok htotal
    rw [payloadChunkKeys_cons] at hzero hne
    by_cases h0 : payload.data.totalChunks.toNat = 0
    · -- no chunk here: the accounts pass on unchanged to the other payloads
      rw [assembleSinglePayloadChunks_of_zero h0 hfirst] at hrest
      have hnil : (payloadChunkSeedsList submitter clientId sequence (UInt8.ofNat payloadIndex)
          payload.data.totalChunks).map List.flatten = [] := by simp [payloadChunkSeedsList, h0]
      rw [hnil, List.nil_append] at hzero hne
      exact assembleMultiplePayloads_replay payloads accts (payloadIndex + 1) _ hzero hne _ hrest
    · -- the first chunk read is zero-filled, so it does not decode
      obtain ⟨chunkData, hacct⟩ := (assembleSinglePayloadChunks_reads hs hc hfirst).2 0 (by omega)
      have hmem : (payloadChunkSeeds submitter clientId sequence (UInt8.ofNat payloadIndex) (UInt8.ofNat 0)).flatten ∈
          (payloadChunkSeedsList submitter clientId sequence (UInt8.ofNat payloadIndex)
            payload.data.totalChunks).map List.flatten := by
        rw [payloadChunkSeedsList_map_flatten]
        exact List.mem_map.mpr ⟨0, List.mem_range.mpr (by omega), rfl⟩
      rw [hzero _ (List.mem_append_left _ hmem)] at hacct
      cases hacct

end Stored

/-! ## What the reassembly writes -/

theorem forEachChunk_frame {v : Option Account} :
    ∀ (accts : Accounts) (keys : List Bytes) (seedss : List (List Bytes)) {accts' : Accounts},
      forEachChunk v accts keys seedss = .ok accts' → ∀ k, (∀ seeds ∈ seedss, k ≠ seeds.flatten) → accts' k = accts k
  | accts, _, [], _, h, _, _ => by
    simp only [forEachChunk, Except.ok.injEq] at h
    rw [h]
  | _, [], _ :: _, _, h, _, _ => by simp [forEachChunk] at h
  | accts, key :: keys, seeds :: rest, accts', h, k, hk => by
    simp only [forEachChunk, bind_eq_ok, require_eq_ok, exists_const] at h
    obtain ⟨expected, hexp, hkey, -, h⟩ := h
    have hflat : key = seeds.flatten := hkey.trans (address_eq_ok hexp)
    rw [forEachChunk_frame _ keys rest h k fun s hs => hk s (List.mem_cons_of_mem _ hs), hflat,
      Function.update_of_ne (hk seeds List.mem_cons_self)]

theorem assembleSinglePayloadChunks_frame {payloadIndex totalChunks : UInt8} {start : ℕ} {data : Bytes}
    (h : assembleSinglePayloadChunks accts remaining submitter clientId sequence payloadIndex totalChunks start =
      .ok (accts', data)) {k : Bytes}
    (hk : ∀ chunkIndex, k ≠ (payloadChunkSeeds submitter clientId sequence payloadIndex chunkIndex).flatten) :
    accts' k = accts k := by
  simp only [assembleSinglePayloadChunks, bind_eq_ok, pure_eq_ok, Prod.mk.injEq] at h
  obtain ⟨_, -, accts'', hclean, rfl, -⟩ := h
  simp only [cleanupPayloadChunks, require_bind_eq_ok] at hclean
  refine forEachChunk_frame _ _ _ hclean.2 k fun seeds hseeds => ?_
  obtain ⟨i, -, rfl⟩ := List.mem_map.mp hseeds
  exact hk _

theorem assembleMultiplePayloads_frame :
    ∀ (payloads : List MsgPayload) (accts : Accounts) (payloadIndex accountOffset : ℕ) {accts' : Accounts}
      {datas : List Bytes},
      assembleMultiplePayloads remaining submitter clientId sequence accts payloadIndex accountOffset payloads =
        .ok (accts', datas) →
      ∀ k, (∀ payloadIndex chunkIndex, k ≠ (payloadChunkSeeds submitter clientId sequence payloadIndex chunkIndex).flatten) →
        accts' k = accts k
  | [], _, _, _, _, _, h, _, _ => by
    simp only [assembleMultiplePayloads, Except.ok.injEq, Prod.mk.injEq] at h
    rw [h.1]
  | payload :: payloads, accts, payloadIndex, accountOffset, accts', datas, h, k, hk => by
    simp only [assembleMultiplePayloads, bind_eq_ok, pure_eq_ok] at h
    obtain ⟨totalChunks, -, ⟨accts₁, data₁⟩, hfirst, ⟨accts₂, rest⟩, hrest, hout⟩ := h
    obtain ⟨rfl, -⟩ := Prod.mk.inj hout
    dsimp only at hrest ⊢
    rw [assembleMultiplePayloads_frame payloads accts₁ _ _ hrest k hk]
    exact assembleSinglePayloadChunks_frame hfirst (hk _)

theorem validateAndReconstructPacket_frame {msgPacket : MsgPacket} {P : Packet}
    (h : validateAndReconstructPacket accts msgPacket remaining submitter clientId = .ok (accts', P)) (k : Bytes)
    (hk : ∀ payloadIndex chunkIndex,
      k ≠ (payloadChunkSeeds submitter clientId msgPacket.sequence payloadIndex chunkIndex).flatten) :
    accts' k = accts k := by
  simp only [validateAndReconstructPacket, bind_eq_ok, require_eq_ok, exists_const, pure_eq_ok] at h
  obtain ⟨-, -, ⟨accts₁, payloads⟩, hassembled, hout⟩ := h
  obtain ⟨rfl, -⟩ := Prod.mk.inj hout
  unfold reconstructPayloads at hassembled
  split at hassembled
  · simp only [bind_eq_ok, pure_eq_ok, Prod.mk.injEq] at hassembled
    obtain ⟨_, -, rfl, -⟩ := hassembled
    rfl
  · simp only [bind_eq_ok, pure_eq_ok, Prod.mk.injEq] at hassembled
    obtain ⟨⟨accts₂, datas⟩, hchunked, rfl, -⟩ := hassembled
    exact assembleMultiplePayloads_frame _ _ _ _ hchunked k hk

/-! ## Reassembling a chunked packet -/

/-- The chunk accounts of a chunked packet and its chunked proof, in the order they begin the
remaining accounts: each payload's chunks, then the proof's. -/
def chunkAccountKeys (submitter clientId : Bytes) (msgPacket : MsgPacket) (proofChunks : UInt8) : List Bytes :=
  payloadChunkKeys submitter clientId msgPacket.sequence 0 msgPacket.payloads ++
    proofChunkKeys submitter clientId msgPacket.sequence proofChunks

theorem uniformDelivery_of_chunked :
    ∀ payloads : List MsgPayload, (∀ p ∈ payloads, p.data = .chunked p.data.totalChunks) →
      uniformDelivery (payloads.map MsgPayload.data) = true
  | [], _ => rfl
  | [_], _ => rfl
  | p :: q :: rest, h => by
    have hp : p.data.isInline = false := by rw [h p List.mem_cons_self]; rfl
    have hq : q.data.isInline = false := by rw [h q (List.mem_cons_of_mem _ List.mem_cons_self)]; rfl
    have hrest := uniformDelivery_of_chunked (q :: rest) fun r hr => h r (List.mem_cons_of_mem _ hr)
    rw [List.map_cons] at hrest
    rw [List.map_cons, List.map_cons, uniformDelivery, hp, hq, hrest]
    rfl

theorem mem_payloadChunkKeys {k : Bytes} :
    ∀ {payloadIndex : ℕ} {payloads : List MsgPayload}, k ∈ payloadChunkKeys submitter clientId sequence payloadIndex payloads →
      ∃ i j, k = (payloadChunkSeeds submitter clientId sequence i j).flatten
  | _, [], h => by simp [payloadChunkKeys] at h
  | payloadIndex, payload :: payloads, h => by
    rw [payloadChunkKeys_cons, List.mem_append] at h
    rcases h with h | h
    · obtain ⟨seeds, hseeds, rfl⟩ := List.mem_map.mp h
      obtain ⟨j, -, rfl⟩ := List.mem_map.mp hseeds
      exact ⟨_, _, rfl⟩
    · exact mem_payloadChunkKeys h

/-- A chunked packet takes the chunked branch of `validate_and_reconstruct_packet`. -/
theorem head_not_inline {msgPacket : MsgPacket} (hchunked : ∀ p ∈ msgPacket.payloads, p.data = .chunked p.data.totalChunks) :
    (msgPacket.payloads.head?.map fun p => p.data.isInline) ≠ some true := by
  cases hps : msgPacket.payloads with
  | nil => simp
  | cons p ps =>
    have hp : p.data.isInline = false := by
      rw [hchunked p (by rw [hps]; exact List.mem_cons_self)]
      rfl
    simp [hp]

section Stored

variable (hs : submitter.length ≤ 32) (hc : clientId.length ≤ 32)
include hs hc

/-- **A chunked packet reassembled.** Every field but the payloads' values comes from the
message, and each value is its chunks' data end to end. -/
theorem validateAndReconstructPacket_of_stored {msgPacket : MsgPacket} (hne : msgPacket.payloads ≠ [])
    (hcount : msgPacket.payloads.length ≤ 256)
    (hchunked : ∀ p ∈ msgPacket.payloads, p.data = .chunked p.data.totalChunks) (data : ℕ → ℕ → Bytes)
    (hkeys : remaining.take (payloadChunkKeys submitter clientId msgPacket.sequence 0 msgPacket.payloads).length =
      payloadChunkKeys submitter clientId msgPacket.sequence 0 msgPacket.payloads)
    (hstored : ∀ i (hi : i < msgPacket.payloads.length), ∀ j < msgPacket.payloads[i].data.totalChunks.toNat,
      accts (payloadChunkSeeds submitter clientId msgPacket.sequence (UInt8.ofNat i) (UInt8.ofNat j)).flatten =
        some (.payloadChunk clientId msgPacket.sequence (UInt8.ofNat i) (UInt8.ofNat j) (data i j))) :
    validateAndReconstructPacket accts msgPacket remaining submitter clientId =
      .ok (fun k => if k ∈ payloadChunkKeys submitter clientId msgPacket.sequence 0 msgPacket.payloads then
          some .zeroed else accts k,
        ⟨msgPacket.sequence, msgPacket.sourceClient, msgPacket.destClient, msgPacket.timeoutTimestamp,
          msgPacket.payloads.mapIdx fun i p => p.toPayload ((List.range p.data.totalChunks.toNat).map (data i)).flatten⟩) := by
  have hmulti := assembleMultiplePayloads_of_stored hs hc data msgPacket.payloads accts 0 0 (by simpa using hcount)
    hchunked (by simpa using hkeys) (by simpa using hstored)
  -- the values go into the payloads of the message in order
  have hzip : ∀ (g : ℕ → MsgPayload → Bytes) (payloads : List MsgPayload),
      List.zipWith MsgPayload.toPayload payloads (payloads.mapIdx g) = payloads.mapIdx fun i p => p.toPayload (g i p) := by
    intro g payloads
    apply List.ext_getElem <;> simp
  simp only [validateAndReconstructPacket, reconstructPayloads, if_neg (head_not_inline hchunked), hmulti, require,
    hne, ne_eq, not_false_eq_true, if_true, uniformDelivery_of_chunked _ hchunked, bind, Except.bind, pure,
    Except.pure, hzip, Nat.zero_add]

theorem validateAndReconstructPacket_keys {msgPacket : MsgPacket}
    (hchunked : ∀ p ∈ msgPacket.payloads, p.data = .chunked p.data.totalChunks) {P : Packet}
    (h : validateAndReconstructPacket accts msgPacket remaining submitter clientId = .ok (accts', P)) :
    remaining.take (payloadChunkKeys submitter clientId msgPacket.sequence 0 msgPacket.payloads).length =
      payloadChunkKeys submitter clientId msgPacket.sequence 0 msgPacket.payloads := by
  simp only [validateAndReconstructPacket, bind_eq_ok, require_eq_ok, exists_const] at h
  obtain ⟨-, -, ⟨accts₁, payloads⟩, hassembled, -⟩ := h
  simp only [reconstructPayloads, if_neg (head_not_inline hchunked), bind_eq_ok] at hassembled
  obtain ⟨⟨accts₂, datas⟩, hmulti, -⟩ := hassembled
  simpa using assembleMultiplePayloads_keys hs hc _ _ _ _ hmulti

theorem validateAndReconstructPacket_replay {msgPacket : MsgPacket}
    (hchunked : ∀ p ∈ msgPacket.payloads, p.data = .chunked p.data.totalChunks)
    (hzero : ∀ k ∈ payloadChunkKeys submitter clientId msgPacket.sequence 0 msgPacket.payloads, accts k = some .zeroed)
    (hne : payloadChunkKeys submitter clientId msgPacket.sequence 0 msgPacket.payloads ≠ []) (r : Accounts × Packet) :
    validateAndReconstructPacket accts msgPacket remaining submitter clientId ≠ .ok r := by
  intro h
  simp only [validateAndReconstructPacket, bind_eq_ok, require_eq_ok, exists_const] at h
  obtain ⟨-, -, ⟨accts₁, payloads⟩, hassembled, -⟩ := h
  simp only [reconstructPayloads, if_neg (head_not_inline hchunked), bind_eq_ok] at hassembled
  obtain ⟨⟨accts₂, datas⟩, hmulti, -⟩ := hassembled
  exact assembleMultiplePayloads_replay hs hc _ _ _ _ hzero hne _ hmulti

/-- **Reassembly with the chunk accounts first.** With the chunks of each payload and of the
proof stored at their addresses, the remaining accounts beginning with those addresses in order
give the packet and the proof; the chunks are zero-filled, and the application gets the accounts
after them. -/
theorem chunkedReassembly_ok {msgPacket : MsgPacket} (hne : msgPacket.payloads ≠ [])
    (hcount : msgPacket.payloads.length ≤ 256)
    (hchunked : ∀ p ∈ msgPacket.payloads, p.data = .chunked p.data.totalChunks) (proofChunks : UInt8)
    (data : ℕ → ℕ → Bytes) (proof : ℕ → Bytes)
    (hstored : ∀ i (hi : i < msgPacket.payloads.length), ∀ j < msgPacket.payloads[i].data.totalChunks.toNat,
      accts (payloadChunkSeeds submitter clientId msgPacket.sequence (UInt8.ofNat i) (UInt8.ofNat j)).flatten =
        some (.payloadChunk clientId msgPacket.sequence (UInt8.ofNat i) (UInt8.ofNat j) (data i j)))
    (hproof : ∀ j < proofChunks.toNat,
      accts (proofChunkSeeds submitter clientId msgPacket.sequence (UInt8.ofNat j)).flatten =
        some (.proofChunk clientId msgPacket.sequence (UInt8.ofNat j) (proof j)))
    (extra : List Bytes) :
    ∃ accts₁, validateAndReconstructPacket accts msgPacket (chunkAccountKeys submitter clientId msgPacket proofChunks ++ extra)
        submitter clientId =
        .ok (accts₁, ⟨msgPacket.sequence, msgPacket.sourceClient, msgPacket.destClient, msgPacket.timeoutTimestamp,
          msgPacket.payloads.mapIdx fun i p => p.toPayload ((List.range p.data.totalChunks.toNat).map (data i)).flatten⟩) ∧
      assembleProofChunks accts₁ (chunkAccountKeys submitter clientId msgPacket proofChunks ++ extra) submitter clientId
          msgPacket.sequence (.chunked proofChunks) (msgPacket.payloads.map fun p => p.data.totalChunks.toNat).sum =
        .ok (fun k => if k ∈ chunkAccountKeys submitter clientId msgPacket proofChunks then some .zeroed else accts k,
          ((List.range proofChunks.toNat).map proof).flatten) ∧
      filterAppRemainingAccounts (chunkAccountKeys submitter clientId msgPacket proofChunks ++ extra)
          (msgPacket.payloads.map fun p => p.data.totalChunks.toNat).sum proofChunks = extra := by
  set payloadKeys := payloadChunkKeys submitter clientId msgPacket.sequence 0 msgPacket.payloads
  set proofKeys := proofChunkKeys submitter clientId msgPacket.sequence proofChunks
  have htotal : (msgPacket.payloads.map fun p => p.data.totalChunks.toNat).sum = payloadKeys.length :=
    (payloadChunkKeys_length _ _ _ _ _).symm
  have hkeys : (chunkAccountKeys submitter clientId msgPacket proofChunks ++ extra).take payloadKeys.length =
      payloadKeys := by simp [chunkAccountKeys, payloadKeys]
  have hvalidate := validateAndReconstructPacket_of_stored hs hc hne hcount hchunked data hkeys hstored
  set accts₁ : Accounts := fun k => if k ∈ payloadKeys then some Account.zeroed else accts k with haccts₁
  -- the proof chunks are not payload chunks, so they are still there for the proof
  have hproof' : ∀ j < proofChunks.toNat,
      accts₁ (proofChunkSeeds submitter clientId msgPacket.sequence (UInt8.ofNat j)).flatten =
        some (.proofChunk clientId msgPacket.sequence (UInt8.ofNat j) (proof j)) := by
    intro j hj
    have hnot : (proofChunkSeeds submitter clientId msgPacket.sequence (UInt8.ofNat j)).flatten ∉ payloadKeys := by
      intro hmem
      obtain ⟨i, c, heq⟩ := mem_payloadChunkKeys hmem
      exact payloadChunkSeeds_ne_proofChunkSeeds _ _ _ i c _ heq.symm
    simp only [haccts₁, hnot, if_false, hproof j hj]
  have hkeys' : ((chunkAccountKeys submitter clientId msgPacket proofChunks ++ extra).drop payloadKeys.length).take
      proofChunks.toNat = proofKeys := by simp [chunkAccountKeys, payloadKeys, proofKeys]
  have hprf := assembleProofChunks_of_stored hs hc proof hkeys' hproof'
  refine ⟨_, hvalidate, ?_, ?_⟩
  · rw [htotal, hprf]
    congr 2
    funext k
    by_cases h₀ : k ∈ payloadKeys <;> by_cases h₁ : k ∈ proofKeys <;>
      simp [haccts₁, chunkAccountKeys, h₀, h₁, payloadKeys, proofKeys]
  · -- the application's accounts start after the payload and proof chunks
    have hlen : (msgPacket.payloads.map fun p => p.data.totalChunks.toNat).sum + proofChunks.toNat =
        (chunkAccountKeys submitter clientId msgPacket proofChunks).length := by
      simp [chunkAccountKeys, htotal, payloadKeys]
    unfold filterAppRemainingAccounts
    rw [hlen]
    split_ifs with hlt
    · exact List.drop_left
    · simp only [List.length_append, Nat.lt_add_right_iff_pos, Nat.not_lt, Nat.le_zero, List.length_eq_zero_iff] at hlt
      exact hlt.symm

end Stored

section Stored

variable (hs : submitter.length ≤ 32) (hc : clientId.length ≤ 32)
include hs hc

/-- A reassembly that succeeds read its chunks at the first positions of the remaining
accounts: the payloads' chunks in order, then the proof's. -/
theorem chunkedReassembly_keys {msgPacket : MsgPacket}
    (hchunked : ∀ p ∈ msgPacket.payloads, p.data = .chunked p.data.totalChunks) (proofChunks : UInt8)
    {accts₁ accts₂ : Accounts} {P : Packet} {proof : Bytes}
    (hvalidate : validateAndReconstructPacket accts msgPacket remaining submitter clientId = .ok (accts₁, P))
    (hproof : assembleProofChunks accts₁ remaining submitter clientId msgPacket.sequence (.chunked proofChunks)
      (msgPacket.payloads.map fun p => p.data.totalChunks.toNat).sum = .ok (accts₂, proof)) :
    remaining.take (chunkAccountKeys submitter clientId msgPacket proofChunks).length =
      chunkAccountKeys submitter clientId msgPacket proofChunks := by
  have hpayloads := validateAndReconstructPacket_keys hs hc hchunked hvalidate
  have hproofs := (assembleProofChunks_reads hs hc hproof).1
  rw [← payloadChunkKeys_length submitter clientId msgPacket.sequence 0] at hproofs
  rw [chunkAccountKeys, List.length_append, List.take_add, hpayloads, proofChunkKeys_length, hproofs]

/-- **The chunks of a reassembly are not consumed twice.** Once they are zero-filled, a
second reassembly of the same packet fails, whatever the remaining accounts. -/
theorem chunkedReassembly_replay {msgPacket : MsgPacket}
    (hchunked : ∀ p ∈ msgPacket.payloads, p.data = .chunked p.data.totalChunks) (proofChunks : UInt8)
    (hne : chunkAccountKeys submitter clientId msgPacket proofChunks ≠ []) {accts₁ accts₂ : Accounts} {P : Packet}
    {proof : Bytes}
    (hvalidate : validateAndReconstructPacket
      (fun k => if k ∈ chunkAccountKeys submitter clientId msgPacket proofChunks then some .zeroed else accts k)
      msgPacket remaining submitter clientId = .ok (accts₁, P)) :
    assembleProofChunks accts₁ remaining submitter clientId msgPacket.sequence (.chunked proofChunks)
      (msgPacket.payloads.map fun p => p.data.totalChunks.toNat).sum ≠ .ok (accts₂, proof) := by
  intro hproof
  by_cases hpayloads : payloadChunkKeys submitter clientId msgPacket.sequence 0 msgPacket.payloads = []
  · -- no payload chunk: the proof's first chunk is read, and it is zero-filled
    have hproofs : proofChunkKeys submitter clientId msgPacket.sequence proofChunks ≠ [] := by
      simpa [chunkAccountKeys, hpayloads] using hne
    have hpos : 0 < proofChunks.toNat := by
      rw [← proofChunkKeys_length submitter clientId msgPacket.sequence]
      exact List.length_pos_of_ne_nil hproofs
    obtain ⟨chunkData, hacct⟩ := (assembleProofChunks_reads hs hc hproof).2 0 hpos
    have hmem : (proofChunkSeeds submitter clientId msgPacket.sequence (UInt8.ofNat 0)).flatten ∈
        chunkAccountKeys submitter clientId msgPacket proofChunks := by
      rw [chunkAccountKeys, proofChunkKeys_eq]
      exact List.mem_append_right _ (List.mem_map.mpr ⟨0, List.mem_range.mpr hpos, rfl⟩)
    rw [validateAndReconstructPacket_frame hvalidate _ fun i c heq =>
      payloadChunkSeeds_ne_proofChunkSeeds _ _ _ i c _ heq.symm, if_pos hmem] at hacct
    cases hacct
  · -- a payload chunk is read first, and it is zero-filled
    exact validateAndReconstructPacket_replay hs hc hchunked
      (fun k hk => by simp [chunkAccountKeys, hk]) hpayloads _ hvalidate

end Stored

/-- **Chunked packet reassembly on Solana.** Let relayer `r` have uploaded, for client `c` and
sequence `s`, the chunk `j` of payload `i` with data `data i j` for every payload (at most 256,
each `Delivery::Chunked`) and each of its chunks, and the chunk `j` of the proof with data
`proof j`. Then `validate_and_reconstruct_packet` followed by `assemble_proof_chunks`, given the
chunk addresses first, in order, and any accounts after them: gives the message's packet with
each payload's value its chunks end to end, and the proof its chunks end to end; zero-fills every
chunk and nothing else; and leaves the application exactly the accounts after the chunks. Any
remaining accounts on which both succeed begin with those addresses, in order. And once the
chunks are zero-filled, no second reassembly of them succeeds. -/
theorem chunked_packet_reassembly {relayer clientId : Bytes} (hrelayer : relayer.length ≤ 32)
    (hclient : clientId.length ≤ 32) {msgPacket : MsgPacket} (hne : msgPacket.payloads ≠ [])
    (hcount : msgPacket.payloads.length ≤ 256)
    (hchunked : ∀ p ∈ msgPacket.payloads, p.data = .chunked p.data.totalChunks) (proofChunks : UInt8)
    (data : ℕ → ℕ → Bytes) (proof : ℕ → Bytes)
    (hstored : ∀ i (hi : i < msgPacket.payloads.length), ∀ j < msgPacket.payloads[i].data.totalChunks.toNat,
      accts (payloadChunkSeeds relayer clientId msgPacket.sequence (UInt8.ofNat i) (UInt8.ofNat j)).flatten =
        some (.payloadChunk clientId msgPacket.sequence (UInt8.ofNat i) (UInt8.ofNat j) (data i j)))
    (hproof : ∀ j < proofChunks.toNat,
      accts (proofChunkSeeds relayer clientId msgPacket.sequence (UInt8.ofNat j)).flatten =
        some (.proofChunk clientId msgPacket.sequence (UInt8.ofNat j) (proof j))) :
    (∀ extra : List Bytes, ∃ accts₁,
      validateAndReconstructPacket accts msgPacket (chunkAccountKeys relayer clientId msgPacket proofChunks ++ extra)
          relayer clientId =
        .ok (accts₁, ⟨msgPacket.sequence, msgPacket.sourceClient, msgPacket.destClient, msgPacket.timeoutTimestamp,
          msgPacket.payloads.mapIdx fun i p => p.toPayload ((List.range p.data.totalChunks.toNat).map (data i)).flatten⟩) ∧
      assembleProofChunks accts₁ (chunkAccountKeys relayer clientId msgPacket proofChunks ++ extra) relayer clientId
          msgPacket.sequence (.chunked proofChunks) (msgPacket.payloads.map fun p => p.data.totalChunks.toNat).sum =
        .ok (fun k => if k ∈ chunkAccountKeys relayer clientId msgPacket proofChunks then some .zeroed else accts k,
          ((List.range proofChunks.toNat).map proof).flatten) ∧
      filterAppRemainingAccounts (chunkAccountKeys relayer clientId msgPacket proofChunks ++ extra)
          (msgPacket.payloads.map fun p => p.data.totalChunks.toNat).sum proofChunks = extra) ∧
    (∀ (remaining : List Bytes) (accts₁ accts₂ : Accounts) (P : Packet) (proofData : Bytes),
      validateAndReconstructPacket accts msgPacket remaining relayer clientId = .ok (accts₁, P) →
      assembleProofChunks accts₁ remaining relayer clientId msgPacket.sequence (.chunked proofChunks)
          (msgPacket.payloads.map fun p => p.data.totalChunks.toNat).sum = .ok (accts₂, proofData) →
      remaining.take (chunkAccountKeys relayer clientId msgPacket proofChunks).length =
        chunkAccountKeys relayer clientId msgPacket proofChunks) ∧
    (chunkAccountKeys relayer clientId msgPacket proofChunks ≠ [] →
      ∀ (remaining : List Bytes) (accts₁ accts₂ : Accounts) (P : Packet) (proofData : Bytes),
        validateAndReconstructPacket
            (fun k => if k ∈ chunkAccountKeys relayer clientId msgPacket proofChunks then some .zeroed else accts k)
            msgPacket remaining relayer clientId = .ok (accts₁, P) →
        assembleProofChunks accts₁ remaining relayer clientId msgPacket.sequence (.chunked proofChunks)
            (msgPacket.payloads.map fun p => p.data.totalChunks.toNat).sum ≠ .ok (accts₂, proofData)) := by
  refine ⟨fun extra => chunkedReassembly_ok hrelayer hclient hne hcount hchunked proofChunks data proof hstored
      hproof extra, fun remaining accts₁ accts₂ P proofData hvalidate hproofs => ?_,
    fun hkeys remaining accts₁ accts₂ P proofData hvalidate => ?_⟩
  · exact chunkedReassembly_keys hrelayer hclient hchunked proofChunks hvalidate hproofs
  · exact chunkedReassembly_replay hrelayer hclient hchunked proofChunks hkeys hvalidate

/-- A packet of one payload in one chunk, sequence 1. -/
def sampleChunkedPacket : MsgPacket := ⟨1, [], [], 0, [⟨[], [], [], [], .chunked 1⟩]⟩

/-- The router's accounts once relayer `[]` uploaded, for client `[]`, that chunk, `[7]`, and one
proof chunk, `[8]`. -/
def sampleChunkAccounts : Accounts :=
  Function.update
    (Function.update (fun _ => none) (payloadChunkSeeds [] [] 1 0 0).flatten (some (.payloadChunk [] 1 0 0 [7])))
    (proofChunkSeeds [] [] 1 0).flatten (some (.proofChunk [] 1 0 [8]))

theorem sampleChunkAccounts_payload :
    ∀ i (hi : i < sampleChunkedPacket.payloads.length), ∀ j < sampleChunkedPacket.payloads[i].data.totalChunks.toNat,
      sampleChunkAccounts (payloadChunkSeeds [] [] sampleChunkedPacket.sequence (UInt8.ofNat i) (UInt8.ofNat j)).flatten =
        some (.payloadChunk [] sampleChunkedPacket.sequence (UInt8.ofNat i) (UInt8.ofNat j) [7]) := by
  decide

theorem sampleChunkAccounts_proof : ∀ j < (1 : UInt8).toNat,
    sampleChunkAccounts (proofChunkSeeds [] [] sampleChunkedPacket.sequence (UInt8.ofNat j)).flatten =
      some (.proofChunk [] sampleChunkedPacket.sequence (UInt8.ofNat j) [8]) := by
  decide

theorem sampleChunkedPacket_chunked :
    ∀ p ∈ sampleChunkedPacket.payloads, p.data = .chunked p.data.totalChunks := by
  decide

theorem chunked_packet_reassembly_sample :
    filterAppRemainingAccounts (chunkAccountKeys [] [] sampleChunkedPacket 1 ++ [[9]])
      (sampleChunkedPacket.payloads.map fun p => p.data.totalChunks.toNat).sum 1 = [[9]] := by
  obtain ⟨_, -, -, h⟩ := (chunked_packet_reassembly (by decide) (by decide) (by decide) (by decide)
    sampleChunkedPacket_chunked 1 (fun _ _ => [7]) (fun _ => [8]) sampleChunkAccounts_payload
    sampleChunkAccounts_proof).1 [[9]]
  exact h

/-- The remaining accounts need not be the chunk accounts alone: with an application's account
after them, the reassembly still succeeds. -/
theorem reassembly_accepts_app_accounts :
    chunkAccountKeys [] [] sampleChunkedPacket 1 ++ [[9]] ≠ chunkAccountKeys [] [] sampleChunkedPacket 1 ∧
      ∃ accts₁ P accts₂ proof,
        validateAndReconstructPacket sampleChunkAccounts sampleChunkedPacket
            (chunkAccountKeys [] [] sampleChunkedPacket 1 ++ [[9]]) [] [] = .ok (accts₁, P) ∧
          assembleProofChunks accts₁ (chunkAccountKeys [] [] sampleChunkedPacket 1 ++ [[9]]) [] []
              sampleChunkedPacket.sequence (.chunked 1)
              (sampleChunkedPacket.payloads.map fun p => p.data.totalChunks.toNat).sum = .ok (accts₂, proof) := by
  obtain ⟨accts₁, hvalidate, hproof, -⟩ := chunkedReassembly_ok (by decide) (by decide) (by decide) (by decide)
    sampleChunkedPacket_chunked 1 (fun _ _ => [7]) (fun _ => [8]) sampleChunkAccounts_payload
    sampleChunkAccounts_proof [[9]]
  exact ⟨by simp, accts₁, _, _, _, hvalidate, hproof⟩

end Ics26Router
