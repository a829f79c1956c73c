/-
# The Solana router's accounts

The `ics26-router` program keeps its state in accounts at program-derived
addresses: the router state, one account per app port and per client, one
`Commitment` per packet commitment, receipt and acknowledgement (under the
seeds `packet_commitment`, `packet_receipt`, `packet_ack`, the client id and
the little-endian sequence), and the chunks relayers upload. The model is one
map from address to account data (`Ics26Router.Accounts`), with Anchor's way of
opening an account: `init` fails on an address in use, `init_if_needed`
creates a zeroed commitment or loads the one there, and loading checks the
account's type. A chunk the router consumed is zero-filled (`Account.zeroed`):
it loads as nothing until `cleanup_chunks` closes it.

Commitment addresses of the three kinds never meet, nor meet a chunk's or a
client's, since their first seeds differ (`Ics26Router.packetCommitmentKey_ne_receiptKey`
and siblings); inside a kind the address determines the client id and the
sequence.

Key definitions: `Ics26Router.Account`, `Ics26Router.Accounts`,
`Ics26Router.initCommitment`, `Ics26Router.initIfNeededCommitment`.
-/
import IbcEureka.Solana.Ics24
import IbcEureka.Lib.Pda
import IbcEureka.Lib.Txn

namespace Ics26Router

/-- A Solana public key, as its 32 bytes. -/
abbrev Pubkey := Bytes

/-- `RouterError`: the errors of the router the modelled instructions raise. -/
inductive RouterError
  | RouterPaused
  | PortIdentifierMismatch
  | ClientNotActive
  | InvalidTimeoutTimestamp
  | InvalidTimeoutDuration
  | ZeroPacketSequence
  | InvalidCounterpartyClient
  | ClientMismatch
  | ArithmeticOverflow
  | PacketReceiptMismatch
  | AsyncAcknowledgementNotSupported
  | UniversalErrorAcknowledgement
  | PacketCommitmentMismatch
  | InvalidPayloadCount
  | MixedDeliveryModes
  | InvalidChunkCount
  | InvalidChunkAccount
  | InvalidAccountOwner
  | ChunkDataTooLarge
  | InvalidClientId
  | InvalidCounterpartyInfo
  | InvalidMigrationParams
  | IbcAppNotFound
  deriving DecidableEq, Repr

/-- Why an instruction fails. -/
inductive Fail
  | router (e : RouterError)
  | ics24 (e : Ics24.Ics24Error)
  /-- Anchor's account checks: an address in use for `init`, a missing account, an account of
  another type, seeds that derive no address, a `require_eq!` on fields. -/
  | accountNotInitialized
  | accountAlreadyInUse
  | accountDiscriminatorMismatch
  | constraintSeeds
  | requireEqViolated
  /-- The access manager refused the signer its role. -/
  | unauthorized
  /-- A cross-program invocation failed, which fails the whole instruction. -/
  | cpiFailed
  /-- A panic: `unreachable!`, an index out of bounds. -/
  | panic
  deriving DecidableEq, Repr

/-- `IBCApp`: the program an app port routes to. -/
structure IBCApp where
  portId : Bytes
  appProgramId : Pubkey
  deriving DecidableEq, Repr

/-- `Client`: a client id's light-client program and counterparty, and whether it is active. -/
structure Client where
  clientId : Bytes
  clientProgramId : Pubkey
  counterpartyInfo : CounterpartyInfo
  active : Bool
  deriving DecidableEq, Repr

/-- The data of an account the router owns. -/
inductive Account
  | routerState (paused : Bool)
  | ibcApp (app : IBCApp)
  | client (client : Client)
  | commitment (value : Bytes)
  | payloadChunk (clientId : Bytes) (sequence : UInt64) (payloadIndex chunkIndex : UInt8) (chunkData : Bytes)
  | proofChunk (clientId : Bytes) (sequence : UInt64) (chunkIndex : UInt8) (chunkData : Bytes)
  /-- A consumed chunk: its data were zero-filled, so it has no type any more. -/
  | zeroed
  deriving DecidableEq, Repr

/-- The accounts at the router's addresses. -/
abbrev Accounts := Bytes → Option Account

/-- `Commitment::EMPTY`. -/
def empty : Bytes := zeroWord

/-! ## Seeds and addresses -/

/-- `b"router_state"`. -/
def routerStateSeed : Bytes := [0x72, 0x6f, 0x75, 0x74, 0x65, 0x72, 0x5f, 0x73, 0x74, 0x61, 0x74, 0x65]
/-- `b"ibc_app"`. -/
def ibcAppSeed : Bytes := [0x69, 0x62, 0x63, 0x5f, 0x61, 0x70, 0x70]
/-- `b"client"`. -/
def clientSeed : Bytes := [0x63, 0x6c, 0x69, 0x65, 0x6e, 0x74]
/-- `b"packet_commitment"`. -/
def packetCommitmentSeed : Bytes :=
  [0x70, 0x61, 0x63, 0x6b, 0x65, 0x74, 0x5f, 0x63, 0x6f, 0x6d, 0x6d, 0x69, 0x74, 0x6d, 0x65, 0x6e, 0x74]
/-- `b"packet_receipt"`. -/
def packetReceiptSeed : Bytes := [0x70, 0x61, 0x63, 0x6b, 0x65, 0x74, 0x5f, 0x72, 0x65, 0x63, 0x65, 0x69, 0x70, 0x74]
/-- `b"packet_ack"`. -/
def packetAckSeed : Bytes := [0x70, 0x61, 0x63, 0x6b, 0x65, 0x74, 0x5f, 0x61, 0x63, 0x6b]
/-- `b"payload_chunk"`. -/
def payloadChunkSeed : Bytes := [0x70, 0x61, 0x79, 0x6c, 0x6f, 0x61, 0x64, 0x5f, 0x63, 0x68, 0x75, 0x6e, 0x6b]
/-- `b"proof_chunk"`. -/
def proofChunkSeed : Bytes := [0x70, 0x72, 0x6f, 0x6f, 0x66, 0x5f, 0x63, 0x68, 0x75, 0x6e, 0x6b]

/-- The address of an account of the router, or the failure to derive it. -/
def address (seeds : List Bytes) : Except Fail Bytes := Txn.expect (Pda.derive seeds) .constraintSeeds

/-- The seeds of the three commitment accounts of a packet: the kind, the client id, the
sequence little-endian. -/
def commitmentSeeds (kindSeed clientId : Bytes) (sequence : UInt64) : List Bytes :=
  [kindSeed, clientId, sequence.toLeBytes]

/-- The seeds of a payload chunk account. -/
def payloadChunkSeeds (relayer clientId : Bytes) (sequence : UInt64) (payloadIndex chunkIndex : UInt8) :
    List Bytes :=
  [payloadChunkSeed, relayer, clientId, sequence.toLeBytes, [payloadIndex], [chunkIndex]]

/-- The seeds of a proof chunk account. -/
def proofChunkSeeds (relayer clientId : Bytes) (sequence : UInt64) (chunkIndex : UInt8) : List Bytes :=
  [proofChunkSeed, relayer, clientId, sequence.toLeBytes, [chunkIndex]]

/-- The address of the packet commitment of `(clientId, sequence)`, as a concatenation. -/
def packetCommitmentKey (clientId : Bytes) (sequence : UInt64) : Bytes :=
  (commitmentSeeds packetCommitmentSeed clientId sequence).flatten

/-- The address of the packet receipt of `(clientId, sequence)`. -/
def packetReceiptKey (clientId : Bytes) (sequence : UInt64) : Bytes :=
  (commitmentSeeds packetReceiptSeed clientId sequence).flatten

/-- The address of the acknowledgement commitment of `(clientId, sequence)`. -/
def packetAckKey (clientId : Bytes) (sequence : UInt64) : Bytes :=
  (commitmentSeeds packetAckSeed clientId sequence).flatten

/-! ## Anchor's account handling -/

/-- `Account<T>` at the address of `seeds`: it must be there and decode as a `T`. -/
def loadAccount {α : Type} (accts : Accounts) (seeds : List Bytes) (decode : Account → Option α) : Except Fail α := do
  let key ← address seeds
  match accts key with
  | some acct => Txn.expect (decode acct) .accountDiscriminatorMismatch
  | none => .error .accountNotInitialized

def Account.asRouterState : Account → Option Bool
  | .routerState paused => some paused
  | _ => none

def Account.asIbcApp : Account → Option IBCApp
  | .ibcApp app => some app
  | _ => none

def Account.asClient : Account → Option Client
  | .client c => some c
  | _ => none

/-- `Account<Commitment>`: the commitment at `key`, which must be there. -/
def loadCommitment (accts : Accounts) (key : Bytes) : Except Fail Bytes :=
  match accts key with
  | some (.commitment value) => .ok value
  | some _ => .error .accountDiscriminatorMismatch
  | none => .error .accountNotInitialized

/-- `init` of a `Commitment`: the address must be free; the new account holds `EMPTY`. -/
def initCommitment (accts : Accounts) (key : Bytes) : Except Fail Unit :=
  match accts key with
  | none => .ok ()
  | some _ => .error .accountAlreadyInUse

/-- `init_if_needed` of a `Commitment`: the value there, or `EMPTY` for a new account. -/
def initIfNeededCommitment (accts : Accounts) (key : Bytes) : Except Fail Bytes :=
  match accts key with
  | none => .ok empty
  | some (.commitment value) => .ok value
  | some _ => .error .accountDiscriminatorMismatch

/-- Writing an account's data. -/
def Accounts.set (accts : Accounts) (key : Bytes) (acct : Account) : Accounts :=
  Function.update accts key (some acct)

@[simp] theorem Accounts.set_self (accts : Accounts) (key : Bytes) (acct : Account) :
    accts.set key acct key = some acct := Function.update_self _ _ _

theorem Accounts.set_of_ne {accts : Accounts} {key key' : Bytes} (acct : Account) (h : key' ≠ key) :
    accts.set key acct key' = accts key' := Function.update_of_ne h _ _

theorem loadCommitment_eq_ok {accts : Accounts} {key value : Bytes} :
    loadCommitment accts key = .ok value ↔ accts key = some (.commitment value) := by
  unfold loadCommitment
  split <;> simp_all

theorem initCommitment_eq_ok {accts : Accounts} {key : Bytes} {u : Unit} :
    initCommitment accts key = .ok u ↔ accts key = none := by
  unfold initCommitment
  split <;> simp_all

theorem initIfNeededCommitment_eq_ok {accts : Accounts} {key value : Bytes} :
    initIfNeededCommitment accts key = .ok value ↔
      (accts key = none ∧ value = empty) ∨ accts key = some (.commitment value) := by
  unfold initIfNeededCommitment
  split <;> simp_all [eq_comm]

/-- Closing an account: with its lamports drained, the runtime removes it. -/
def Accounts.close (accts : Accounts) (key : Bytes) : Accounts :=
  Function.update accts key none

/-! ## Commitment addresses -/

/-- Inside one kind, the address gives back the client id and the sequence. -/
theorem commitmentSeeds_flatten_inj {s c c' : Bytes} {q q' : UInt64}
    (h : (commitmentSeeds s c q).flatten = (commitmentSeeds s c' q').flatten) : c = c' ∧ q = q' := by
  simp only [commitmentSeeds, List.flatten_cons, List.flatten_nil, List.append_nil] at h
  rw [← List.append_assoc, ← List.append_assoc] at h
  obtain ⟨hc, hq⟩ := Pda.append_inj_of_length h (by simp)
  exact ⟨hc, UInt64.toLeBytes_inj hq⟩

/-- Kinds whose seeds differ in their first eight bytes have no address in common. -/
theorem commitmentSeeds_flatten_ne {s s' c c' : Bytes} {q q' : UInt64} (hs : 8 ≤ s.length)
    (hs' : 8 ≤ s'.length) (h : s.take 8 ≠ s'.take 8) :
    (commitmentSeeds s c q).flatten ≠ (commitmentSeeds s' c' q').flatten :=
  Pda.flatten_ne_of_take_ne hs hs' h

/-- A write at the address of `(c, q)` in one kind, read in the same kind. -/
theorem update_commitmentSeeds_same (accts : Accounts) (s c c' : Bytes) (q q' : UInt64) (v : Option Account) :
    Function.update accts (commitmentSeeds s c q).flatten v (commitmentSeeds s c' q').flatten =
      if (c', q') = (c, q) then v else accts (commitmentSeeds s c' q').flatten := by
  by_cases hk : (c', q') = (c, q)
  · obtain ⟨rfl, rfl⟩ := Prod.mk.inj hk
    simp
  · rw [if_neg hk, Function.update_of_ne]
    intro heq
    obtain ⟨rfl, rfl⟩ := commitmentSeeds_flatten_inj heq
    exact hk rfl

/-- A write in one kind, read in a kind whose seed differs within eight bytes. -/
theorem update_commitmentSeeds_other (accts : Accounts) {s s' : Bytes} (c c' : Bytes) (q q' : UInt64)
    (v : Option Account) (hs : 8 ≤ s.length) (hs' : 8 ≤ s'.length) (h : s.take 8 ≠ s'.take 8) :
    Function.update accts (commitmentSeeds s c q).flatten v (commitmentSeeds s' c' q').flatten =
      accts (commitmentSeeds s' c' q').flatten :=
  Function.update_of_ne (commitmentSeeds_flatten_ne hs' hs (Ne.symm h)) _ _

/-- The accounts of the three kinds, by client id and sequence. -/
@[ext] structure PacketView where
  commitment : Bytes × UInt64 → Option Account
  receipt : Bytes × UInt64 → Option Account
  ack : Bytes × UInt64 → Option Account

/-- The view with the commitment account of `k` set to `a`. -/
def PacketView.setCommitment (v : PacketView) (k : Bytes × UInt64) (a : Account) : PacketView :=
  { v with commitment := Function.update v.commitment k (some a) }

/-- The view with the receipt account of `k` set to `a`. -/
def PacketView.setReceipt (v : PacketView) (k : Bytes × UInt64) (a : Account) : PacketView :=
  { v with receipt := Function.update v.receipt k (some a) }

/-- The view with the acknowledgement account of `k` set to `a`. -/
def PacketView.setAck (v : PacketView) (k : Bytes × UInt64) (a : Account) : PacketView :=
  { v with ack := Function.update v.ack k (some a) }

@[simp] theorem PacketView.setCommitment_commitment (v : PacketView) (k : Bytes × UInt64) (a : Account) :
    (v.setCommitment k a).commitment = Function.update v.commitment k (some a) := rfl
@[simp] theorem PacketView.setCommitment_receipt (v : PacketView) (k : Bytes × UInt64) (a : Account) :
    (v.setCommitment k a).receipt = v.receipt := rfl
@[simp] theorem PacketView.setCommitment_ack (v : PacketView) (k : Bytes × UInt64) (a : Account) :
    (v.setCommitment k a).ack = v.ack := rfl
@[simp] theorem PacketView.setReceipt_commitment (v : PacketView) (k : Bytes × UInt64) (a : Account) :
    (v.setReceipt k a).commitment = v.commitment := rfl
@[simp] theorem PacketView.setReceipt_receipt (v : PacketView) (k : Bytes × UInt64) (a : Account) :
    (v.setReceipt k a).receipt = Function.update v.receipt k (some a) := rfl
@[simp] theorem PacketView.setReceipt_ack (v : PacketView) (k : Bytes × UInt64) (a : Account) :
    (v.setReceipt k a).ack = v.ack := rfl
@[simp] theorem PacketView.setAck_commitment (v : PacketView) (k : Bytes × UInt64) (a : Account) :
    (v.setAck k a).commitment = v.commitment := rfl
@[simp] theorem PacketView.setAck_receipt (v : PacketView) (k : Bytes × UInt64) (a : Account) :
    (v.setAck k a).receipt = v.receipt := rfl
@[simp] theorem PacketView.setAck_ack (v : PacketView) (k : Bytes × UInt64) (a : Account) :
    (v.setAck k a).ack = Function.update v.ack k (some a) := rfl

/-- The packet accounts among all the router's accounts. -/
def view (accts : Accounts) : PacketView where
  commitment k := accts (packetCommitmentKey k.1 k.2)
  receipt k := accts (packetReceiptKey k.1 k.2)
  ack k := accts (packetAckKey k.1 k.2)

/-- An address of no packet account. -/
def OffPacket (key : Bytes) : Prop :=
  ∀ c q, key ≠ packetCommitmentKey c q ∧ key ≠ packetReceiptKey c q ∧ key ≠ packetAckKey c q

/-- Writing an account elsewhere leaves the packet accounts alone. -/
theorem view_update_of_offPacket (accts : Accounts) {key : Bytes} (v : Option Account) (h : OffPacket key) :
    view (Function.update accts key v) = view accts := by
  ext1 <;> funext k <;> simp only [view] <;> apply Function.update_of_ne
  · exact fun heq => (h k.1 k.2).1 heq.symm
  · exact fun heq => (h k.1 k.2).2.1 heq.symm
  · exact fun heq => (h k.1 k.2).2.2 heq.symm

/-- Accounts whose first seed differs from the three packet seeds early on are off the packet
accounts. -/
theorem offPacket_of_seed {s : Bytes} {rest : List Bytes} (n : ℕ) (hn : n ≤ 10) (hs : n ≤ s.length)
    (h : ∀ t ∈ [packetCommitmentSeed, packetReceiptSeed, packetAckSeed], s.take n ≠ t.take n) :
    OffPacket (s :: rest).flatten := by
  intro c q
  have hc : n ≤ packetCommitmentSeed.length := hn.trans (by decide)
  have hr : n ≤ packetReceiptSeed.length := hn.trans (by decide)
  have ha : n ≤ packetAckSeed.length := hn.trans (by decide)
  exact ⟨Pda.flatten_ne_of_take_ne hs hc (h _ (by simp)), Pda.flatten_ne_of_take_ne hs hr (h _ (by simp)),
    Pda.flatten_ne_of_take_ne hs ha (h _ (by simp))⟩

theorem offPacket_payloadChunk (relayer clientId : Bytes) (sequence : UInt64) (payloadIndex chunkIndex : UInt8) :
    OffPacket (payloadChunkSeeds relayer clientId sequence payloadIndex chunkIndex).flatten :=
  offPacket_of_seed 3 (by decide) (by decide) (by decide)

theorem offPacket_proofChunk (relayer clientId : Bytes) (sequence : UInt64) (chunkIndex : UInt8) :
    OffPacket (proofChunkSeeds relayer clientId sequence chunkIndex).flatten :=
  offPacket_of_seed 3 (by decide) (by decide) (by decide)

theorem offPacket_client (clientId : Bytes) : OffPacket ([clientSeed, clientId]).flatten :=
  offPacket_of_seed 1 (by decide) (by decide) (by decide)

/-! ## Writing a packet account -/

theorem view_set_packetCommitment (accts : Accounts) (c : Bytes) (q : UInt64) (a : Account) :
    view (accts.set (packetCommitmentKey c q) a) =
      (view accts).setCommitment (c, q) a := by
  unfold PacketView.setCommitment
  ext1 <;> funext k <;> simp only [view, Accounts.set, packetCommitmentKey, packetReceiptKey, packetAckKey]
  · rw [update_commitmentSeeds_same, Function.update_apply]
  · exact update_commitmentSeeds_other _ _ _ _ _ _ (by decide) (by decide) (by decide)
  · exact update_commitmentSeeds_other _ _ _ _ _ _ (by decide) (by decide) (by decide)

theorem view_set_packetReceipt (accts : Accounts) (c : Bytes) (q : UInt64) (a : Account) :
    view (accts.set (packetReceiptKey c q) a) =
      (view accts).setReceipt (c, q) a := by
  unfold PacketView.setReceipt
  ext1 <;> funext k <;> simp only [view, Accounts.set, packetCommitmentKey, packetReceiptKey, packetAckKey]
  · exact update_commitmentSeeds_other _ _ _ _ _ _ (by decide) (by decide) (by decide)
  · rw [update_commitmentSeeds_same, Function.update_apply]
  · exact update_commitmentSeeds_other _ _ _ _ _ _ (by decide) (by decide) (by decide)

theorem view_set_packetAck (accts : Accounts) (c : Bytes) (q : UInt64) (a : Account) :
    view (accts.set (packetAckKey c q) a) =
      (view accts).setAck (c, q) a := by
  unfold PacketView.setAck
  ext1 <;> funext k <;> simp only [view, Accounts.set, packetCommitmentKey, packetReceiptKey, packetAckKey]
  · exact update_commitmentSeeds_other _ _ _ _ _ _ (by decide) (by decide) (by decide)
  · exact update_commitmentSeeds_other _ _ _ _ _ _ (by decide) (by decide) (by decide)
  · rw [update_commitmentSeeds_same, Function.update_apply]

theorem address_eq_ok {seeds : List Bytes} {key : Bytes} (h : address seeds = .ok key) : key = seeds.flatten :=
  Pda.derive_eq_some (Txn.expect_eq_ok.mp h)

end Ics26Router
