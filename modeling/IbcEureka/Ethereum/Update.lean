/-
# The Ethereum light client: updating the consensus state

`update_consensus_state` applies a header to the latest consensus state: the
finalized slot becomes the new slot, and the committees move on when the
finalized period is the one after the stored period (the next committee
becomes current, the header's next committee becomes next). With no next
committee stored, the finalized period must be the stored one, and the
header's next committee, if any, is stored. The client state's latest slot
moves to the finalized slot when that is higher.

A header verified against the latest consensus state lands in a non-error
branch, and rotates the committees exactly at the period boundary
(`verified_header_updates`): its finalized period is the stored period or the
one after, because the signature period is at most one after the stored one
and the finalized slot lies between the stored slot and the signature slot.

Key definitions: `updateConsensusState`.
Key theorems: `VerifiedHeader.finalizedPeriod`, `verified_header_updates`.
-/
import IbcEureka.Ethereum.Verify

namespace EthereumLightClient

open Txn

variable (H : Hashing)

/-- The committees after an update: rotated when the finalized period is the one after the
stored one and a next committee is stored; the header's next committee stored when none is. -/
def updatedSyncCommittees (current : SummarizedSyncCommittee) (next : Option SummarizedSyncCommittee)
    (storePeriod updateFinalizedPeriod : UInt64) (header : Header) :
    Except Failure (SummarizedSyncCommittee × Option SummarizedSyncCommittee) :=
  match next with
  | some nextSyncCommittee =>
    -- sync committee only changes when the period changes
    if updateFinalizedPeriod = storePeriod + 1 then
      .ok (nextSyncCommittee, header.consensusUpdate.nextSyncCommittee.map (·.toSummarizedSyncCommittee H))
    else .ok (current, some nextSyncCommittee)
  | none => do
    Fault.ensure (updateFinalizedPeriod = storePeriod) .StorePeriodMustBeEqualToFinalizedPeriod
    pure (current, header.consensusUpdate.nextSyncCommittee.map (·.toSummarizedSyncCommittee H))

/-- `update_consensus_state`: the updated slot, consensus state, and client state if the slot
moved up. -/
def updateConsensusState (currentConsensusState : ConsensusState) (currentClientState : ClientState) (header : Header) :
    Except Failure (UInt64 × ConsensusState × Option ClientState) := do
  Fault.ensure (currentClientState.latestSlot = currentConsensusState.slot)
    (.ClientAndConsensusSlotMismatch currentClientState.latestSlot currentConsensusState.slot)
  let storeSlot := currentConsensusState.slot
  let storePeriod ← currentClientState.computeSyncCommitteePeriodAtSlot storeSlot
  let updateFinalizedSlot := header.consensusUpdate.finalizedHeader.beacon.slot
  let updateFinalizedPeriod ← currentClientState.computeSyncCommitteePeriodAtSlot updateFinalizedSlot
  let committees ← updatedSyncCommittees H currentConsensusState.currentSyncCommittee
    currentConsensusState.nextSyncCommittee storePeriod updateFinalizedPeriod header
  let newConsensusState : ConsensusState :=
    { currentConsensusState with
      currentSyncCommittee := committees.1
      nextSyncCommittee := committees.2
      slot := updateFinalizedSlot
      stateRoot := header.consensusUpdate.finalizedHeader.execution.stateRoot
      timestamp := header.consensusUpdate.finalizedHeader.execution.timestamp }
  let newClientState : Option ClientState :=
    if updateFinalizedSlot > currentConsensusState.slot then
      some { currentClientState with
        latestSlot := updateFinalizedSlot
        latestExecutionBlockNumber := header.consensusUpdate.finalizedHeader.execution.blockNumber }
    else none
  pure (updateFinalizedSlot, newConsensusState, newClientState)

/-- **A successful update, taken apart.** The slots matched and the periods are defined; the
update is at the finalized slot, with the committees' update as its committees, and moves the
latest slot there when it is higher. -/
theorem updateConsensusState_eq_ok {c c' : ConsensusState} {cs : ClientState} {header : Header} {slot : UInt64}
    {ocs : Option ClientState} (h : updateConsensusState H c cs header = .ok (slot, c', ocs)) :
    cs.latestSlot = c.slot ∧ cs.slotsPerEpoch ≠ 0 ∧ cs.epochsPerSyncCommitteePeriod ≠ 0 ∧
      slot = header.consensusUpdate.finalizedHeader.beacon.slot ∧
      updatedSyncCommittees H c.currentSyncCommittee c.nextSyncCommittee (cs.period c.slot)
        (cs.period header.consensusUpdate.finalizedHeader.beacon.slot) header =
          .ok (c'.currentSyncCommittee, c'.nextSyncCommittee) ∧
      c'.slot = header.consensusUpdate.finalizedHeader.beacon.slot ∧
      ocs = if header.consensusUpdate.finalizedHeader.beacon.slot > c.slot then
        some { cs with
          latestSlot := header.consensusUpdate.finalizedHeader.beacon.slot
          latestExecutionBlockNumber := header.consensusUpdate.finalizedHeader.execution.blockNumber }
      else none := by
  simp only [updateConsensusState, bind_eq_ok, Fault.ensure_eq_ok, ClientState.computeSyncCommitteePeriodAtSlot_eq_ok,
    pure_eq_ok, Prod.mk.injEq] at h
  obtain ⟨_, hslot, _, ⟨hspe, hepp, rfl⟩, _, ⟨-, -, rfl⟩, committees, hcommittees, rfl, rfl, rfl⟩ := h
  exact ⟨hslot, hspe, hepp, rfl, hcommittees, rfl, rfl⟩

/-! ## A verified header against the latest consensus state -/

section Verified

variable {H : Hashing} {V : BlsVerifier} {c : ConsensusState} {cs : ClientState} {header : Header}

/-- u64 `b + 1` is `a` exactly when `a` is one above `b`, for `b ≤ a`: the wrap from the largest
value to zero would go below `b`. -/
theorem eq_add_one_iff_toNat {a b : UInt64} (hle : b ≤ a) : a = b + 1 ↔ a.toNat = b.toNat + 1 := by
  have hle' := UInt64.le_iff_toNat_le.mp hle
  have ha := a.toNat_lt
  rw [← UInt64.toNat_inj, UInt64.toNat_add, UInt64.toNat_one]
  omega

/-- **The finalized period of a verified header** is the stored period or the one after, and the
one after only for a signature by the trusted next committee. -/
theorem VerifiedHeader.finalizedPeriod (hv : VerifiedHeader H V c cs header) :
    ((cs.period header.consensusUpdate.finalizedHeader.beacon.slot).toNat = (cs.period c.slot).toNat ∨
      (cs.period header.consensusUpdate.finalizedHeader.beacon.slot).toNat = (cs.period c.slot).toNat + 1) ∧
    ((cs.period header.consensusUpdate.finalizedHeader.beacon.slot).toNat = (cs.period c.slot).toNat + 1 →
      ∃ sc, header.activeSyncCommittee = .Next sc) := by
  obtain ⟨-, ⟨_, hvalid⟩, -, habove, -⟩ := hv
  -- the stored slot, the finalized slot and the signature slot are in order, and so are their periods
  have habove' := UInt64.lt_iff_toNat_lt.mp habove
  have hfa := UInt64.le_iff_toNat_le.mp hvalid.finalized_le_attested
  have has := UInt64.lt_iff_toNat_lt.mp hvalid.attested_lt_signature
  have hcf := UInt64.le_iff_toNat_le.mp (@ClientState.period_le_period cs c.slot
    header.consensusUpdate.finalizedHeader.beacon.slot (UInt64.le_iff_toNat_le.mpr (by omega)))
  have hfs := UInt64.le_iff_toNat_le.mp (@ClientState.period_le_period cs
    header.consensusUpdate.finalizedHeader.beacon.slot header.consensusUpdate.signatureSlot
    (UInt64.le_iff_toNat_le.mpr (by omega)))
  rcases hvalid.signedBy with ⟨hsame, -⟩ | ⟨hsucc, sc, hsc⟩
  · have hsame' := congrArg UInt64.toNat hsame
    simp only [TrustedConsensusState.finalizedSlot] at hsame'
    omega
  · have hsucc' := congrArg UInt64.toNat hsucc
    have hlt := (cs.period c.slot).toNat_lt
    simp only [TrustedConsensusState.finalizedSlot, UInt64.toNat_add, UInt64.toNat_one] at hsucc'
    exact ⟨by omega, fun _ => ⟨sc, hsc⟩⟩

/-- **The attested period of a verified header** lies at or after the finalized slot's period,
at most one after the trusted slot's, and not after it when the trusted state knows no next
committee: only the trusted next committee signs in the period after. -/
theorem VerifiedHeader.attestedPeriod (hv : VerifiedHeader H V c cs header) :
    (cs.period header.consensusUpdate.finalizedHeader.beacon.slot).toNat ≤
        (cs.period header.consensusUpdate.attestedHeader.beacon.slot).toNat ∧
      (cs.period header.consensusUpdate.attestedHeader.beacon.slot).toNat ≤ (cs.period c.slot).toNat + 1 ∧
      (c.nextSyncCommittee = none →
        (cs.period header.consensusUpdate.attestedHeader.beacon.slot).toNat ≤ (cs.period c.slot).toNat) := by
  obtain ⟨htrusted, ⟨_, hvalid⟩, -, -, -⟩ := hv
  have hFA := UInt64.le_iff_toNat_le.mp (cs.period_le_period hvalid.finalized_le_attested)
  have hAS := UInt64.le_iff_toNat_le.mp (@ClientState.period_le_period cs
    header.consensusUpdate.attestedHeader.beacon.slot header.consensusUpdate.signatureSlot
    (UInt64.le_iff_toNat_le.mpr (Nat.le_of_lt (UInt64.lt_iff_toNat_lt.mp hvalid.attested_lt_signature))))
  rcases hvalid.signedBy with ⟨hsame, -⟩ | ⟨hsucc, sc, hsc⟩
  · have hsame' := congrArg UInt64.toNat hsame
    simp only [TrustedConsensusState.finalizedSlot] at hsame'
    exact ⟨hFA, by omega, fun _ => by omega⟩
  · have hsucc' := congrArg UInt64.toNat hsucc
    simp only [TrustedConsensusState.finalizedSlot, UInt64.toNat_add, UInt64.toNat_one] at hsucc'
    refine ⟨hFA, by omega, fun hnone => ?_⟩
    -- the trusted next committee signed, so the trusted state knows one
    have hsc' : header.activeSyncCommittee = .Next sc := hsc
    rw [hsc'] at htrusted
    simp [ActiveSyncCommittee.Trusted, hnone] at htrusted

/-- With the slots matching and both periods computed, the update is the committees' update
at the finalized slot. -/
theorem updateConsensusState_of_committees (hslot : cs.latestSlot = c.slot) (hspe : cs.slotsPerEpoch ≠ 0)
    (hepp : cs.epochsPerSyncCommitteePeriod ≠ 0)
    {committees : SummarizedSyncCommittee × Option SummarizedSyncCommittee}
    (hcommittees : updatedSyncCommittees H c.currentSyncCommittee c.nextSyncCommittee (cs.period c.slot)
      (cs.period header.consensusUpdate.finalizedHeader.beacon.slot) header = .ok committees) :
    updateConsensusState H c cs header =
      .ok (header.consensusUpdate.finalizedHeader.beacon.slot,
        { c with
          currentSyncCommittee := committees.1
          nextSyncCommittee := committees.2
          slot := header.consensusUpdate.finalizedHeader.beacon.slot
          stateRoot := header.consensusUpdate.finalizedHeader.execution.stateRoot
          timestamp := header.consensusUpdate.finalizedHeader.execution.timestamp },
        if header.consensusUpdate.finalizedHeader.beacon.slot > c.slot then
          some { cs with
            latestSlot := header.consensusUpdate.finalizedHeader.beacon.slot
            latestExecutionBlockNumber := header.consensusUpdate.finalizedHeader.execution.blockNumber }
        else none) := by
  simp only [updateConsensusState, Fault.ensure, Txn.require, if_pos hslot,
    ClientState.computeSyncCommitteePeriodAtSlot_of_ne hspe hepp, hcommittees, bind, Except.bind, pure, Except.pure]

/-- **A header verified against the latest consensus state updates it.** The update succeeds at
the header's finalized slot, above the stored one, and moves the latest slot there; the
finalized period is the stored period or the one after; in the period after, the stored next
committee becomes current and the header's next committee next, and in the stored period the
current committee and a stored next committee stay. -/
theorem verified_header_updates {currentTimestamp : UInt64} (hslot : cs.latestSlot = c.slot)
    (hv : verifyHeader H V c cs currentTimestamp header = .ok ()) :
    ∃ c' cs', updateConsensusState H c cs header =
        .ok (header.consensusUpdate.finalizedHeader.beacon.slot, c', some cs') ∧
      c.slot < header.consensusUpdate.finalizedHeader.beacon.slot ∧
      cs'.latestSlot = header.consensusUpdate.finalizedHeader.beacon.slot ∧
      c'.slot = header.consensusUpdate.finalizedHeader.beacon.slot ∧
      ((cs.period header.consensusUpdate.finalizedHeader.beacon.slot).toNat = (cs.period c.slot).toNat ∨
        (cs.period header.consensusUpdate.finalizedHeader.beacon.slot).toNat = (cs.period c.slot).toNat + 1) ∧
      ((cs.period header.consensusUpdate.finalizedHeader.beacon.slot).toNat = (cs.period c.slot).toNat + 1 →
        ∃ n next, c.nextSyncCommittee = some n ∧ header.consensusUpdate.nextSyncCommittee = some next ∧
          c'.currentSyncCommittee = n ∧ c'.nextSyncCommittee = some (next.toSummarizedSyncCommittee H)) ∧
      ((cs.period header.consensusUpdate.finalizedHeader.beacon.slot).toNat = (cs.period c.slot).toNat →
        c'.currentSyncCommittee = c.currentSyncCommittee ∧
          (c.nextSyncCommittee.isSome → c'.nextSyncCommittee = c.nextSyncCommittee)) := by
  have hver := verifyHeader_verified hv
  obtain ⟨hperiods, hrotate⟩ := hver.finalizedPeriod
  obtain ⟨_, hvalid⟩ := hver.valid
  have habove := hver.above_trusted
  have hle : cs.period c.slot ≤ cs.period header.consensusUpdate.finalizedHeader.beacon.slot :=
    ClientState.period_le_period (UInt64.le_iff_toNat_le.mpr (Nat.le_of_lt (UInt64.lt_iff_toNat_lt.mp habove)))
  have hsucc := eq_add_one_iff_toNat hle
  -- the committees the update computes, by the stored next committee
  obtain ⟨committees, hcommittees, hnextPeriod, hsamePeriod⟩ : ∃ committees,
      updatedSyncCommittees H c.currentSyncCommittee c.nextSyncCommittee (cs.period c.slot)
        (cs.period header.consensusUpdate.finalizedHeader.beacon.slot) header = .ok committees ∧
      ((cs.period header.consensusUpdate.finalizedHeader.beacon.slot).toNat = (cs.period c.slot).toNat + 1 →
        ∃ n next, c.nextSyncCommittee = some n ∧ header.consensusUpdate.nextSyncCommittee = some next ∧
          committees.1 = n ∧ committees.2 = some (next.toSummarizedSyncCommittee H)) ∧
      ((cs.period header.consensusUpdate.finalizedHeader.beacon.slot).toNat = (cs.period c.slot).toNat →
        committees.1 = c.currentSyncCommittee ∧ (c.nextSyncCommittee.isSome → committees.2 = c.nextSyncCommittee)) := by
    cases hc : c.nextSyncCommittee with
    | some n =>
      by_cases hp : (cs.period header.consensusUpdate.finalizedHeader.beacon.slot).toNat = (cs.period c.slot).toNat + 1
      · -- the period after: the header carries the branch, hence the next committee
        have hbranch := hver.branch_of_later (UInt64.lt_iff_toNat_lt.mpr (by omega))
        obtain ⟨next, hnext⟩ := Option.isSome_iff_exists.mp (hvalid.next_isSome.trans hbranch)
        refine ⟨(n, some (next.toSummarizedSyncCommittee H)), ?_, fun _ => ⟨n, next, rfl, hnext, rfl, rfl⟩,
          fun h => absurd h (by omega)⟩
        simp [updatedSyncCommittees, hsucc.mpr hp, hnext]
      · refine ⟨(c.currentSyncCommittee, some n), ?_, fun h => absurd h hp, fun _ => ⟨rfl, fun _ => rfl⟩⟩
        simp [updatedSyncCommittees, mt hsucc.mp hp]
    | none =>
      -- no next committee stored: the named committee is the current one, so the period is the stored one
      have hp : (cs.period header.consensusUpdate.finalizedHeader.beacon.slot).toNat = (cs.period c.slot).toNat := by
        rcases hperiods with hp | hp
        · exact hp
        · obtain ⟨sc, hsc⟩ := hrotate hp
          have htr := hver.trusted
          rw [hsc] at htr
          simp [ActiveSyncCommittee.Trusted, hc] at htr
      refine ⟨(c.currentSyncCommittee, header.consensusUpdate.nextSyncCommittee.map (·.toSummarizedSyncCommittee H)),
        ?_, fun h => absurd h (by omega), fun _ => ⟨rfl, by simp⟩⟩
      simp [updatedSyncCommittees, Fault.ensure, Txn.require, UInt64.toNat_inj.mp hp, bind, Except.bind, pure,
        Except.pure]
  have hupdate := updateConsensusState_of_committees hslot hvalid.slotsPerEpoch_ne
    hvalid.epochsPerSyncCommitteePeriod_ne hcommittees
  rw [if_pos habove] at hupdate
  exact ⟨_, _, hupdate, habove, rfl, rfl, hperiods, hnextPeriod, hsamePeriod⟩

theorem verified_header_updates_sample :
    sampleClientState.latestSlot = sampleConsensusState.slot ∧
      verifyHeader zeroHashing acceptingVerifier sampleConsensusState sampleClientState 1236 sampleHeader = .ok () ∧
      ∃ c' cs', updateConsensusState zeroHashing sampleConsensusState sampleClientState sampleHeader =
        .ok (sampleHeader.consensusUpdate.finalizedHeader.beacon.slot, c', some cs') ∧
      sampleConsensusState.slot < sampleHeader.consensusUpdate.finalizedHeader.beacon.slot ∧
      cs'.latestSlot = sampleHeader.consensusUpdate.finalizedHeader.beacon.slot ∧
      c'.slot = sampleHeader.consensusUpdate.finalizedHeader.beacon.slot ∧
      ((sampleClientState.period sampleHeader.consensusUpdate.finalizedHeader.beacon.slot).toNat =
          (sampleClientState.period sampleConsensusState.slot).toNat ∨
        (sampleClientState.period sampleHeader.consensusUpdate.finalizedHeader.beacon.slot).toNat =
          (sampleClientState.period sampleConsensusState.slot).toNat + 1) ∧
      ((sampleClientState.period sampleHeader.consensusUpdate.finalizedHeader.beacon.slot).toNat =
          (sampleClientState.period sampleConsensusState.slot).toNat + 1 →
        ∃ n next, sampleConsensusState.nextSyncCommittee = some n ∧
          sampleHeader.consensusUpdate.nextSyncCommittee = some next ∧
          c'.currentSyncCommittee = n ∧ c'.nextSyncCommittee = some (next.toSummarizedSyncCommittee zeroHashing)) ∧
      ((sampleClientState.period sampleHeader.consensusUpdate.finalizedHeader.beacon.slot).toNat =
          (sampleClientState.period sampleConsensusState.slot).toNat →
        c'.currentSyncCommittee = sampleConsensusState.currentSyncCommittee ∧
          (sampleConsensusState.nextSyncCommittee.isSome →
            c'.nextSyncCommittee = sampleConsensusState.nextSyncCommittee)) :=
  ⟨rfl, verifyHeader_sample, verified_header_updates rfl verifyHeader_sample⟩

end Verified

end EthereumLightClient
