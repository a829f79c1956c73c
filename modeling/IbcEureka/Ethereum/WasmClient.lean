/-
# The Ethereum light client contract: consensus states by slot

The 08-wasm contract keeps the Ethereum client state and one consensus state
per slot. A relayer's header goes through two entry points in one
transaction: `verify_client_message` checks it against the consensus state
at the header's trusted slot, and `update_state` then applies it to the
consensus state at the client state's latest slot, storing the result at the
header's finalized slot.

What a light client is meant to keep is the beacon chain's committees: the
consensus state at slot `s` holds the summary of the committee of `s`'s
period as its current committee, and the next period's (or none) as its
next one (`CommitteesAt`); and the latest slot is the largest stored one
(`StoreInv`).

The two entry points disagree on the consensus state they read. A header
trusted at a slot below the latest one and finalizing below it too passes
the verification, and the update then stores at its finalized slot the
committees of the latest slot's period (`historical_update_breaks_committees`).
Headers that finalize above the latest slot keep the invariant, whatever
stored slot they are trusted at (`step_forwardInv`), and so does every run of
them from an instantiated store (`run_forwardInv`, `instantiate_run_storeInv`):
the committees of each new consensus state are those of the latest one, moved
on by exactly the period the header finalizes in. The invariant carried
(`ForwardInv`) adds to `StoreInv` that each consensus state is stored under
its own slot and that a next committee, once known in a period, stays known
at later slots of it: the latest state then knows the next committee
whenever an update may rotate to it.

Key definitions: `EthereumLightClient.Store`, `EthereumLightClient.verifyClientMessage`,
`EthereumLightClient.updateState`, `EthereumLightClient.StoreInv`, `EthereumLightClient.ForwardInv`.
Key theorems: `EthereumLightClient.step_forwardInv`, `EthereumLightClient.run_forwardInv`,
`EthereumLightClient.instantiate_run_storeInv`, `EthereumLightClient.historical_update_breaks_committees`.
-/
import IbcEureka.Ethereum.Update

namespace EthereumLightClient

open Txn

/-- The variants of `ContractError` these entry points return. -/
inductive ContractError
  | ClientAndConsensusStateMismatch
  | UnsupportedForkVersion (e : Failure)
  | ConsensusStateNotFound
  | VerifyClientMessageFailed (e : Failure)
  | UpdateClientStateFailed (e : Failure)
  /-- A panic, which aborts the call. -/
  | Aborted (e : Failure)

/-- The contract's storage: the Ethereum client state, and the consensus states by slot. -/
structure Store where
  clientState : ClientState
  consensusStates : UInt64 → Option ConsensusState

/-- `instantiate::client`: the client state and its consensus state at the latest slot. -/
def instantiateClient (clientState : ClientState) (consensusState : ConsensusState) : Except ContractError Store := do
  require (clientState.latestSlot = consensusState.slot) .ClientAndConsensusStateMismatch
  let epoch ← (clientState.computeEpochAtSlot clientState.latestSlot).mapError .Aborted
  (clientState.verifySupportedForkAtEpoch epoch).mapError .UnsupportedForkVersion
  pure ⟨clientState, fun slot => if slot = consensusState.slot then some consensusState else none⟩

variable (H : Hashing) (V : BlsVerifier)

/-- `verify_client_message` for a header: the header against the consensus state at its trusted
slot. -/
def verifyClientMessage (s : Store) (currentTimestamp : UInt64) (header : Header) : Except ContractError Unit := do
  let ethConsensusState ← expect (s.consensusStates header.trustedSlot) .ConsensusStateNotFound
  (verifyHeader H V ethConsensusState s.clientState currentTimestamp header).mapError .VerifyClientMessageFailed

/-- `update_state`: the header applied to the consensus state at the latest slot, the result
stored at the updated slot, and the client state replaced when the slot moved up. -/
def updateState (s : Store) (header : Header) : Except ContractError (Store × UInt64) := do
  let ethConsensusState ← expect (s.consensusStates s.clientState.latestSlot) .ConsensusStateNotFound
  let (updatedSlot, updatedConsensusState, updatedClientState) ←
    (updateConsensusState H ethConsensusState s.clientState header).mapError .UpdateClientStateFailed
  let s := { s with consensusStates := Function.update s.consensusStates updatedSlot (some updatedConsensusState) }
  match updatedClientState with
  | some clientState => pure ({ s with clientState := clientState }, updatedSlot)
  | none => pure (s, updatedSlot)

/-- One update of the client: `verify_client_message` on a header at a block time, then
`update_state` on it, the updated slot logged. -/
def step (s : Store) : UInt64 × Header → Except ContractError (Store × List UInt64)
  | (currentTimestamp, header) => do
    verifyClientMessage H V s currentTimestamp header
    let (s, updatedSlot) ← updateState H s header
    pure (s, [updatedSlot])

/-! ## The committees a store should hold -/

/-- The committees of the consensus state `c` stored at `slot` are the beacon chain's: the
current one that of the slot's period, the next one that of the period after, or none. -/
def CommitteesAt (committee : UInt64 → SyncCommittee) (cs : ClientState) (slot : UInt64) (c : ConsensusState) :
    Prop :=
  c.currentSyncCommittee = (committee (cs.period slot)).toSummarizedSyncCommittee H ∧
    (c.nextSyncCommittee = none ∨
      c.nextSyncCommittee = some ((committee (cs.period slot + 1)).toSummarizedSyncCommittee H))

instance (committee : UInt64 → SyncCommittee) (cs : ClientState) (slot : UInt64) (c : ConsensusState) :
    Decidable (CommitteesAt H committee cs slot c) := by
  unfold CommitteesAt
  infer_instance

/-- The store's invariant: every stored consensus state holds its slot's committees, and the
latest slot is the largest stored one. -/
structure StoreInv (committee : UInt64 → SyncCommittee) (s : Store) : Prop where
  committees : ∀ slot c, s.consensusStates slot = some c → CommitteesAt H committee s.clientState slot c
  latest_stored : (s.consensusStates s.clientState.latestSlot).isSome
  latest_max : ∀ slot, (s.consensusStates slot).isSome → slot ≤ s.clientState.latestSlot

/-- What the Merkle branch and the signature are meant to ensure: a next committee an update
carries is the one of the period after its attested slot. -/
def HonestNext (committee : UInt64 → SyncCommittee) (cs : ClientState) (header : Header) : Prop :=
  ∀ next, header.consensusUpdate.nextSyncCommittee = some next →
    next = committee (cs.period header.consensusUpdate.attestedHeader.beacon.slot + 1)

theorem instantiateClient_eq_ok {cs : ClientState} {c : ConsensusState} {s : Store}
    (h : instantiateClient cs c = .ok s) :
    cs.latestSlot = c.slot ∧ s = ⟨cs, fun slot => if slot = c.slot then some c else none⟩ := by
  simp only [instantiateClient, bind_eq_ok, require_eq_ok, exists_const, mapError_eq_ok, pure_eq_ok] at h
  obtain ⟨hslot, _, -, _, -, rfl⟩ := h
  exact ⟨hslot, rfl⟩

/-- `instantiate` stores one consensus state, at the latest slot: the invariant holds once that
consensus state has its slot's committees. -/
theorem instantiateClient_storeInv {committee : UInt64 → SyncCommittee} {cs : ClientState} {c : ConsensusState}
    {s : Store} (h : instantiateClient cs c = .ok s) (hc : CommitteesAt H committee cs c.slot c) :
    StoreInv H committee s := by
  obtain ⟨hslot, rfl⟩ := instantiateClient_eq_ok h
  constructor
  · intro slot c' hc'
    dsimp only at hc' ⊢
    by_cases hs : slot = c.slot
    · rw [if_pos hs, Option.some.injEq] at hc'
      subst hc' hs
      exact hc
    · rw [if_neg hs] at hc'
      cases hc'
  · simp [hslot]
  · intro slot hs
    dsimp only at hs ⊢
    by_cases h : slot = c.slot
    · rw [h, hslot]
      exact UInt64.le_refl _
    · simp [h] at hs

/-- What updates above the latest slot keep: the store's invariant, each consensus state stored
under its own slot, and a next committee, once known in a period, known at every later slot of
that period. -/
structure ForwardInv (committee : UInt64 → SyncCommittee) (s : Store) : Prop extends StoreInv H committee s where
  slot_eq : ∀ slot c, s.consensusStates slot = some c → c.slot = slot
  next_persists : ∀ a b ca cb, s.consensusStates a = some ca → s.consensusStates b = some cb → a ≤ b →
    s.clientState.period a = s.clientState.period b → ca.nextSyncCommittee.isSome → cb.nextSyncCommittee.isSome

/-- With one consensus state stored, under its slot, the invariant's two further parts hold. -/
theorem instantiateClient_forwardInv {committee : UInt64 → SyncCommittee} {cs : ClientState} {c : ConsensusState}
    {s : Store} (h : instantiateClient cs c = .ok s) (hc : CommitteesAt H committee cs c.slot c) :
    ForwardInv H committee s := by
  refine ⟨instantiateClient_storeInv H h hc, fun slot c' hc' => ?_, fun a b ca cb ha hb _ _ hsome => ?_⟩
  all_goals obtain ⟨-, rfl⟩ := instantiateClient_eq_ok h
  · dsimp only at hc'
    split at hc'
    · rename_i hs
      rw [Option.some.injEq] at hc'
      rw [← hc', hs]
    · cases hc'
  · -- both slots hold the one stored state
    dsimp only at ha hb
    split at ha <;> split at hb
    all_goals simp only [Option.some.injEq, reduceCtorEq] at ha hb
    rw [← hb, ha]
    exact hsome

/-! ## The two entry points -/

section Entry

variable {H V} {s s' : Store} {header : Header}

theorem verifyClientMessage_eq_ok {currentTimestamp : UInt64}
    (h : verifyClientMessage H V s currentTimestamp header = .ok ()) :
    ∃ c, s.consensusStates header.trustedSlot = some c ∧ VerifiedHeader H V c s.clientState header := by
  simp only [verifyClientMessage, bind_eq_ok, expect_eq_ok, mapError_eq_ok] at h
  obtain ⟨c, hc, hverify⟩ := h
  exact ⟨c, hc, verifyHeader_verified hverify⟩

theorem updateState_eq_ok {slot : UInt64} (h : updateState H s header = .ok (s', slot)) :
    ∃ c c' ocs, s.consensusStates s.clientState.latestSlot = some c ∧
      updateConsensusState H c s.clientState header = .ok (slot, c', ocs) ∧
      s' = ⟨ocs.getD s.clientState, Function.update s.consensusStates slot (some c')⟩ := by
  simp only [updateState, bind_eq_ok, expect_eq_ok, mapError_eq_ok] at h
  obtain ⟨c, hc, ⟨slot', c', ocs⟩, hupdate, h⟩ := h
  cases ocs with
  | some cs' =>
    simp only [pure_eq_ok, Prod.mk.injEq] at h
    obtain ⟨rfl, rfl⟩ := h
    exact ⟨c, c', some cs', hc, hupdate, rfl⟩
  | none =>
    simp only [pure_eq_ok, Prod.mk.injEq] at h
    obtain ⟨rfl, rfl⟩ := h
    exact ⟨c, c', none, hc, hupdate, rfl⟩

end Entry

/-! ## Updates above the latest slot -/

section Forward

variable {H V} {committee : UInt64 → SyncCommittee}

/-- **The committees' update keeps the beacon chain's committees.** From the committees of the
latest slot's period `pL`, an update finalizing in the period `pF` gets those of `pF`, when the
next committee it brings is that of the period after its attested slot's `pA`, and `pA` is
between `pF` and the period after `pL`, and not after `pL` when no next committee is stored. -/
theorem updatedSyncCommittees_committees {current : SummarizedSyncCommittee} {next : Option SummarizedSyncCommittee}
    {pL pF pA : UInt64} {header : Header} {committees : SummarizedSyncCommittee × Option SummarizedSyncCommittee}
    (hcurrent : current = (committee pL).toSummarizedSyncCommittee H)
    (hnext : next = none ∨ next = some ((committee (pL + 1)).toSummarizedSyncCommittee H))
    (hhonest : ∀ n, header.consensusUpdate.nextSyncCommittee = some n → n = committee (pA + 1))
    (hLF : pL.toNat ≤ pF.toNat) (hFA : pF.toNat ≤ pA.toNat) (hAL : pA.toNat ≤ pL.toNat + 1)
    (hnone : next = none → pA.toNat ≤ pL.toNat)
    (h : updatedSyncCommittees H current next pL pF header = .ok committees) :
    committees.1 = (committee pF).toSummarizedSyncCommittee H ∧
      (committees.2 = none ∨ committees.2 = some ((committee (pF + 1)).toSummarizedSyncCommittee H)) := by
  -- the header's next committee is the one after `pA`, and so after `pF` once `pA = pF`
  have hheader : pA = pF → header.consensusUpdate.nextSyncCommittee.map (·.toSummarizedSyncCommittee H) = none ∨
      header.consensusUpdate.nextSyncCommittee.map (·.toSummarizedSyncCommittee H) =
        some ((committee (pF + 1)).toSummarizedSyncCommittee H) := by
    intro hp
    cases hn : header.consensusUpdate.nextSyncCommittee with
    | none => exact .inl rfl
    | some n => exact .inr (by rw [hhonest n hn, hp]; rfl)
  have hsucc := eq_add_one_iff_toNat (UInt64.le_iff_toNat_le.mpr hLF)
  rcases hnext with rfl | rfl
  · -- no next committee stored: the finalized period is the stored one
    simp only [updatedSyncCommittees, bind_eq_ok, Fault.ensure_eq_ok, pure_eq_ok] at h
    obtain ⟨_, hpF, rfl⟩ := h
    subst hpF
    have hpA : pA = pF := UInt64.toNat_inj.mp (by have := hnone rfl; omega)
    exact ⟨hcurrent, hheader hpA⟩
  · simp only [updatedSyncCommittees] at h
    by_cases hrot : pF = pL + 1
    · -- the period after: the stored next committee becomes current
      rw [if_pos hrot, Except.ok.injEq] at h
      subst h
      have hpA : pA = pF := UInt64.toNat_inj.mp (by have := hsucc.mp hrot; omega)
      exact ⟨by rw [hrot], hheader hpA⟩
    · rw [if_neg hrot, Except.ok.injEq] at h
      subst h
      have hpF : pF = pL := UInt64.toNat_inj.mp (by have := mt hsucc.mpr hrot; omega)
      exact ⟨by rw [hpF, hcurrent], .inr (by rw [hpF])⟩

/-- Within the stored period, with a next committee stored, the committees stay. -/
theorem updatedSyncCommittees_same_period {current n : SummarizedSyncCommittee} {p : UInt64} {header : Header}
    {committees : SummarizedSyncCommittee × Option SummarizedSyncCommittee}
    (h : updatedSyncCommittees H current (some n) p p header = .ok committees) : committees = (current, some n) := by
  have hne : p ≠ p + 1 := fun hp => by
    have := congrArg UInt64.toNat hp
    rw [UInt64.toNat_add, UInt64.toNat_one] at this
    have hlt := p.toNat_lt
    omega
  simp only [updatedSyncCommittees, if_neg hne, Except.ok.injEq] at h
  exact h.symm

variable {s : Store} {header : Header} {cT cL : ConsensusState}

/-- **The periods of an update above the latest slot.** Verified against the consensus state at a
stored slot `T`, and applied to the one at the latest slot `L`, a header finalizing at `F > L`
and attested at `A` has `P L ≤ P F ≤ P A ≤ P L + 1` for the periods `P`, and `P A ≤ P L` when
no next committee is stored at `L`. -/
theorem forward_periods (hinv : ForwardInv H committee s) (hT : s.consensusStates header.trustedSlot = some cT)
    (hL : s.consensusStates s.clientState.latestSlot = some cL) (hv : VerifiedHeader H V cT s.clientState header)
    (habove : s.clientState.latestSlot < header.consensusUpdate.finalizedHeader.beacon.slot) :
    (s.clientState.period s.clientState.latestSlot).toNat ≤
        (s.clientState.period header.consensusUpdate.finalizedHeader.beacon.slot).toNat ∧
      (s.clientState.period header.consensusUpdate.finalizedHeader.beacon.slot).toNat ≤
        (s.clientState.period header.consensusUpdate.attestedHeader.beacon.slot).toNat ∧
      (s.clientState.period header.consensusUpdate.attestedHeader.beacon.slot).toNat ≤
        (s.clientState.period s.clientState.latestSlot).toNat + 1 ∧
      (cL.nextSyncCommittee = none →
        (s.clientState.period header.consensusUpdate.attestedHeader.beacon.slot).toNat ≤
          (s.clientState.period s.clientState.latestSlot).toNat) := by
  obtain ⟨hFA, hAT, hATnone⟩ := hv.attestedPeriod
  rw [hinv.slot_eq _ _ hT] at hAT hATnone
  -- the trusted slot is stored, so at most the latest one
  have hTL := UInt64.le_iff_toNat_le.mp (s.clientState.period_le_period
    (hinv.latest_max _ (by rw [hT]; rfl)))
  have hLF := UInt64.le_iff_toNat_le.mp (s.clientState.period_le_period
    (UInt64.le_iff_toNat_le.mpr (Nat.le_of_lt (UInt64.lt_iff_toNat_lt.mp habove))))
  refine ⟨hLF, hFA, by omega, fun hnone => ?_⟩
  cases hnext : cT.nextSyncCommittee with
  | none => have := hATnone hnext; omega
  | some n =>
    -- a next committee known at `T` is known at `L` in the same period: the periods differ
    have hne : s.clientState.period header.trustedSlot ≠ s.clientState.period s.clientState.latestSlot := by
      intro hp
      have := hinv.next_persists _ _ _ _ hT hL (hinv.latest_max _ (by rw [hT]; rfl)) hp (by rw [hnext]; rfl)
      rw [hnone] at this
      exact absurd this (by decide)
    have hlt : (s.clientState.period header.trustedSlot).toNat < (s.clientState.period s.clientState.latestSlot).toNat :=
      lt_of_le_of_ne hTL (fun h => hne (UInt64.toNat_inj.mp h))
    omega

theorem committeesAt_congr {cs cs' : ClientState} (hperiod : cs'.period = cs.period) {slot : UInt64}
    {c : ConsensusState} : CommitteesAt H committee cs' slot c ↔ CommitteesAt H committee cs slot c := by
  unfold CommitteesAt
  rw [hperiod]

/-- **Storing above the latest slot.** A consensus state stored at `F` above the latest slot, which
becomes the latest, keeps the invariant when it is stored under its slot, has its slot's
committees, and knows the next committee whenever a stored state of its period does. -/
theorem ForwardInv.insert (hinv : ForwardInv H committee s) {cs' : ClientState} {F : UInt64} {c' : ConsensusState}
    (hperiod : cs'.period = s.clientState.period) (hlatest : cs'.latestSlot = F)
    (habove : s.clientState.latestSlot < F) (hslot : c'.slot = F)
    (hcommittees : CommitteesAt H committee s.clientState F c')
    (hnext : ∀ a ca, s.consensusStates a = some ca → s.clientState.period a = s.clientState.period F →
      ca.nextSyncCommittee.isSome → c'.nextSyncCommittee.isSome) :
    ForwardInv H committee ⟨cs', Function.update s.consensusStates F (some c')⟩ := by
  -- every slot stored before is below `F`
  have hbelow : ∀ a, (s.consensusStates a).isSome → a < F := fun a ha =>
    UInt64.lt_of_le_of_lt (hinv.latest_max a ha) habove
  refine ⟨⟨fun a c ha => ?_, ?_, fun a ha => ?_⟩, fun a c ha => ?_, fun a b ca cb ha hb hab hp hsome => ?_⟩
  · -- committees
    dsimp only at ha ⊢
    rw [committeesAt_congr hperiod]
    by_cases haF : a = F
    · subst haF
      rw [Function.update_self, Option.some.injEq] at ha
      subst ha
      exact hcommittees
    · rw [Function.update_of_ne haF] at ha
      exact hinv.committees a c ha
  · -- the new state is stored at the new latest slot
    simp only [hlatest, Function.update_self, Option.isSome_some]
  · -- every stored slot is at most the new latest one
    dsimp only at ha ⊢
    rw [hlatest]
    by_cases haF : a = F
    · rw [haF]
      exact UInt64.le_refl _
    · rw [Function.update_of_ne haF] at ha
      exact UInt64.le_of_lt (hbelow a ha)
  · -- each state under its own slot
    dsimp only at ha
    by_cases haF : a = F
    · subst haF
      rw [Function.update_self, Option.some.injEq] at ha
      rw [← ha, hslot]
    · rw [Function.update_of_ne haF] at ha
      exact hinv.slot_eq a c ha
  · -- a next committee known earlier in the period is known later
    dsimp only at ha hb hp
    rw [hperiod] at hp
    by_cases haF : a = F <;> by_cases hbF : b = F
    · subst haF hbF
      rw [ha] at hb
      cases hb
      exact hsome
    · rw [Function.update_of_ne hbF] at hb
      have := hbelow b (by rw [hb]; rfl)
      subst haF
      exact absurd (UInt64.lt_of_le_of_lt hab this) (UInt64.lt_irrefl _)
    · subst hbF
      rw [Function.update_self, Option.some.injEq] at hb
      rw [Function.update_of_ne haF] at ha
      rw [← hb]
      exact hnext a ca ha hp hsome
    · rw [Function.update_of_ne haF] at ha
      rw [Function.update_of_ne hbF] at hb
      exact hinv.next_persists a b ca cb ha hb hab hp hsome

variable {s' : Store} {currentTimestamp : UInt64} {slots : List UInt64}

/-- An update above the latest slot that passes both entry points was verified against the state
at its trusted slot, updated the one at the latest slot, and moved the latest slot to its
finalized slot, where it stored the result. -/
theorem step_eq_ok_of_above (hinv : ForwardInv H committee s)
    (habove : s.clientState.latestSlot < header.consensusUpdate.finalizedHeader.beacon.slot)
    (h : step H V s (currentTimestamp, header) = .ok (s', slots)) :
    ∃ cT cL c', s.consensusStates header.trustedSlot = some cT ∧ VerifiedHeader H V cT s.clientState header ∧
      s.consensusStates s.clientState.latestSlot = some cL ∧
      updatedSyncCommittees H cL.currentSyncCommittee cL.nextSyncCommittee
        (s.clientState.period s.clientState.latestSlot)
        (s.clientState.period header.consensusUpdate.finalizedHeader.beacon.slot) header =
          .ok (c'.currentSyncCommittee, c'.nextSyncCommittee) ∧
      c'.slot = header.consensusUpdate.finalizedHeader.beacon.slot ∧
      s' = ⟨{ s.clientState with
          latestSlot := header.consensusUpdate.finalizedHeader.beacon.slot
          latestExecutionBlockNumber := header.consensusUpdate.finalizedHeader.execution.blockNumber },
        Function.update s.consensusStates header.consensusUpdate.finalizedHeader.beacon.slot (some c')⟩ := by
  simp only [step, bind_eq_ok, pure_eq_ok, Prod.mk.injEq] at h
  obtain ⟨⟨⟩, hverify, ⟨s₁, slot⟩, hupdate, rfl, -⟩ := h
  obtain ⟨cT, hT, hv⟩ := verifyClientMessage_eq_ok hverify
  obtain ⟨cL, c', ocs, hL, hupd, rfl⟩ := updateState_eq_ok hupdate
  obtain ⟨-, -, -, rfl, hcommittees, hslot', rfl⟩ := updateConsensusState_eq_ok H hupd
  -- the latest state is stored under the latest slot, which the update is above
  have hLslot := hinv.slot_eq _ _ hL
  rw [hLslot] at hcommittees
  rw [hLslot, if_pos habove, Option.getD_some]
  exact ⟨cT, cL, c', hT, hv, hL, hcommittees, hslot', rfl⟩

/-- An update above the latest slot keeps the sync committee periods, and its finalized slot
becomes the latest. -/
theorem step_clientState_of_above (hinv : ForwardInv H committee s)
    (habove : s.clientState.latestSlot < header.consensusUpdate.finalizedHeader.beacon.slot)
    (h : step H V s (currentTimestamp, header) = .ok (s', slots)) :
    s'.clientState.period = s.clientState.period ∧
      s'.clientState.latestSlot = header.consensusUpdate.finalizedHeader.beacon.slot := by
  obtain ⟨-, -, -, -, -, -, -, -, rfl⟩ := step_eq_ok_of_above hinv habove h
  exact ⟨rfl, rfl⟩

/-- **An update above the latest slot keeps the invariant**, whatever stored slot it is trusted
at, when the next committee it carries is the beacon chain's. -/
theorem step_forwardInv (hinv : ForwardInv H committee s) (hhonest : HonestNext committee s.clientState header)
    (habove : s.clientState.latestSlot < header.consensusUpdate.finalizedHeader.beacon.slot)
    (h : step H V s (currentTimestamp, header) = .ok (s', slots)) : ForwardInv H committee s' := by
  obtain ⟨cT, cL, c', hT, hv, hL, hcommittees, hslot', rfl⟩ := step_eq_ok_of_above hinv habove h
  obtain ⟨hLF, hFA, hAL, hnone⟩ := forward_periods hinv hT hL hv habove
  obtain ⟨hcurrent, hnext⟩ := hinv.committees _ _ hL
  obtain ⟨hcurrent', hnext'⟩ :=
    updatedSyncCommittees_committees hcurrent hnext hhonest hLF hFA hAL hnone hcommittees
  refine hinv.insert rfl rfl habove hslot' ⟨hcurrent', hnext'⟩ ?_
  -- a stored slot in the new slot's period is at most the latest slot, which is then in that
  -- period too: the latest state knows the next committee, and the update keeps it
  intro a ca ha hp hsome
  have haL := hinv.latest_max a (by rw [ha]; rfl)
  have hpL : s.clientState.period s.clientState.latestSlot =
      s.clientState.period header.consensusUpdate.finalizedHeader.beacon.slot := by
    have hle := UInt64.le_iff_toNat_le.mp (s.clientState.period_le_period haL)
    exact UInt64.toNat_inj.mp (by rw [hp] at hle; omega)
  obtain ⟨n, hn⟩ := Option.isSome_iff_exists.mp (hinv.next_persists a _ ca cL ha hL haL (hp.trans hpL.symm) hsome)
  rw [hn, ← hpL] at hcommittees
  have hsame := updatedSyncCommittees_same_period hcommittees
  rw [Prod.mk.injEq] at hsame
  rw [hsame.2]
  rfl

theorem honestNext_congr {cs cs' : ClientState} (hperiod : cs'.period = cs.period) :
    HonestNext committee cs' header ↔ HonestNext committee cs header := by
  unfold HonestNext
  rw [hperiod]

/-- **A run of updates finalizing above the latest slot, each above the one before, keeps the
invariant**, when every next committee they carry is the beacon chain's. An update that fails
leaves the store as it was; one that passes makes its finalized slot the latest, below the
slots of the updates after it. -/
theorem run_forwardInv {inputs : List (UInt64 × Header)} :
    ∀ (s : Store) (log : List UInt64), ForwardInv H committee s →
      (∀ i ∈ inputs, HonestNext committee s.clientState i.2) →
      (∀ i ∈ inputs, s.clientState.latestSlot < i.2.consensusUpdate.finalizedHeader.beacon.slot) →
      (inputs.map (·.2.consensusUpdate.finalizedHeader.beacon.slot)).Pairwise (· < ·) →
      ForwardInv H committee (exec (step H V) (s, log) inputs).1 := by
  induction inputs with
  | nil => intro s _ hinv _ _ _; exact hinv
  | cons i is ih =>
    intro s log hinv hhonest habove hsorted
    rw [List.map_cons, List.pairwise_cons, List.forall_mem_map] at hsorted
    obtain ⟨hnext, hsorted⟩ := hsorted
    rw [exec_cons]
    obtain ⟨s₁, evs, hr, hcase⟩ := apply_cases (step H V) s i
    rw [hr]
    rcases hcase with ⟨hs, -⟩ | hok
    · -- the update failed: the store is unchanged
      rw [hs]
      exact ih s _ hinv (fun j hj => hhonest j (.tail _ hj)) (fun j hj => habove j (.tail _ hj)) hsorted
    · -- the update passed: its finalized slot is the new latest one
      obtain ⟨t, header⟩ := i
      have hi := habove _ List.mem_cons_self
      obtain ⟨hperiod, hlatest⟩ := step_clientState_of_above hinv hi hok
      refine ih s₁ _ (step_forwardInv hinv (hhonest _ List.mem_cons_self) hi hok) (fun j hj => ?_)
        (fun j hj => ?_) hsorted
      · exact (honestNext_congr hperiod).mpr (hhonest j (.tail _ hj))
      · rw [hlatest]
        exact hnext j hj

/-- **From instantiation, updates that move forward keep the beacon chain's committees.** After
any run of updates that finalize above the instantiated slot, each above the one before and each
carrying the beacon chain's next committee, every stored consensus state holds its slot's
committees, and the latest slot is the largest stored one. -/
theorem instantiate_run_storeInv {cs : ClientState} {c : ConsensusState} {s₀ : Store}
    (h : instantiateClient cs c = .ok s₀) (hc : CommitteesAt H committee cs c.slot c)
    {inputs : List (UInt64 × Header)} (hhonest : ∀ i ∈ inputs, HonestNext committee cs i.2)
    (habove : ∀ i ∈ inputs, c.slot < i.2.consensusUpdate.finalizedHeader.beacon.slot)
    (hsorted : (inputs.map (·.2.consensusUpdate.finalizedHeader.beacon.slot)).Pairwise (· < ·)) :
    StoreInv H committee (exec (step H V) (s₀, []) inputs).1 := by
  have hinv := instantiateClient_forwardInv H h hc
  obtain ⟨hslot, rfl⟩ := instantiateClient_eq_ok h
  refine (run_forwardInv _ _ hinv hhonest (fun i hi => ?_) hsorted).toStoreInv
  rw [hslot]
  exact habove i hi

end Forward

/-! ## A historical update -/

/-- The committee of period `p`: eight copies of the key `[p]`, aggregating to `[p]`. -/
def tagCommittee (p : UInt64) : SyncCommittee := ⟨List.replicate 8 [p.toUInt8], [p.toUInt8]⟩

/-- Hashes that take everything to the zero word, but a list of keys to its first key. -/
def tagHashing : Hashing :=
  ⟨fun _ => b256Default, fun _ => b256Default, fun _ => b256Default, fun _ => b256Default, fun pks => pks.headD []⟩

/-- A verifier that accepts every signature and aggregates a list of keys to its first. -/
def tagVerifier : BlsVerifier := ⟨fun _ _ _ => .ok (), fun pks => .ok (pks.headD [])⟩

/-- A client with periods of four one-slot epochs and committees of eight, at slot 4. -/
def shortPeriodClientState : ClientState where
  genesisValidatorsRoot := b256Default
  minSyncCommitteeParticipants := 0
  syncCommitteeSize := 8
  genesisTime := 0
  genesisSlot := 0
  forkParameters := allForksAtGenesis
  secondsPerSlot := 12
  slotsPerEpoch := 1
  epochsPerSyncCommitteePeriod := 4
  latestSlot := 4
  latestExecutionBlockNumber := 0

/-- The consensus state at slot 4, in period 1, with the committees of periods 1 and 2. -/
def periodOneConsensusState : ConsensusState :=
  ⟨4, [], 0, (tagCommittee 1).toSummarizedSyncCommittee tagHashing,
    some ((tagCommittee 2).toSummarizedSyncCommittee tagHashing)⟩

/-- An update finalizing and attesting `finalized`, signed at `signature` by all eight, with
branches of zeros and `next` as its next committee. -/
def taggedUpdate (finalized signature : UInt64) (next : Option SyncCommittee) : LightClientUpdate where
  attestedHeader := zeroBranchHeader tagHashing finalized (zeroBranchRoot tagHashing
    (getSubtreeIndex finalizedRootGindexElectra) (floorlog2 finalizedRootGindexElectra)
    (tagHashing.beaconBlockHeaderRoot (zeroBranchHeader tagHashing finalized []).beacon))
  nextSyncCommittee := next
  nextSyncCommitteeBranch := next.map fun _ => List.Vector.replicate _ b256Default
  finalizedHeader := zeroBranchHeader tagHashing finalized []
  finalityBranch := List.Vector.replicate _ b256Default
  syncAggregate := ⟨[0xff], []⟩
  signatureSlot := signature

/-- Trusted at slot 4, signed in period 2 by the next committee, finalizing slot 8 of period 2
with the committee of period 3. -/
def rotatingHeader : Header := ⟨.Next (tagCommittee 2), taggedUpdate 8 9 (some (tagCommittee 3)), 4⟩

/-- Trusted at slot 4, signed in period 1 by the current committee, finalizing slot 5. -/
def historicalHeader : Header := ⟨.Current (tagCommittee 1), taggedUpdate 5 6 none, 4⟩

/-- Trusted at slot 8, signed in period 3 by the next committee, finalizing slot 12 of period 3
with the committee of period 4. -/
def secondRotatingHeader : Header := ⟨.Next (tagCommittee 3), taggedUpdate 12 13 (some (tagCommittee 4)), 8⟩

/-- The two rotating headers move forward one after the other, and the store keeps the beacon
chain's committees. -/
theorem instantiate_rotating_storeInv :
    ∃ s₀, instantiateClient shortPeriodClientState periodOneConsensusState = .ok s₀ ∧
      (exec (step tagHashing tagVerifier) (s₀, []) [(120, rotatingHeader), (200, secondRotatingHeader)]).2 = [8, 12] ∧
      StoreInv tagHashing tagCommittee
        (exec (step tagHashing tagVerifier) (s₀, []) [(120, rotatingHeader), (200, secondRotatingHeader)]).1 := by
  obtain ⟨s₀, h₀⟩ : ∃ s₀, instantiateClient shortPeriodClientState periodOneConsensusState = .ok s₀ := ⟨_, rfl⟩
  refine ⟨s₀, h₀, ?_, instantiate_run_storeInv h₀ (by decide) (fun i hi => ?_) (fun i hi => ?_) (by decide)⟩
  · rw [(instantiateClient_eq_ok h₀).2]
    decide
  · -- each carries the committee of the period after its attested slot's
    simp only [List.mem_cons, List.not_mem_nil, or_false] at hi
    rcases hi with rfl | rfl
    all_goals
      intro next h
      simp only [rotatingHeader, secondRotatingHeader, taggedUpdate, Option.some.injEq] at h
      subst h
      decide
  · simp only [List.mem_cons, List.not_mem_nil, or_false] at hi
    rcases hi with rfl | rfl <;> decide

/-- **A historical update stores the wrong committees.** From a store that holds the beacon
chain's committees, a header finalizing slot 8 of period 2 rotates them; a second header, trusted
at the stored slot 4 and finalizing slot 5 of period 1, verifies against slot 4, but the update
applies it to slot 8, and stores at slot 5 the committees of period 2. Both headers carry only
the beacon chain's next committees. -/
theorem historical_update_breaks_committees :
    ∃ s₀ s₁ s₂ c, instantiateClient shortPeriodClientState periodOneConsensusState = .ok s₀ ∧
      StoreInv tagHashing tagCommittee s₀ ∧
      HonestNext tagCommittee shortPeriodClientState rotatingHeader ∧
      HonestNext tagCommittee shortPeriodClientState historicalHeader ∧
      (s₀.consensusStates rotatingHeader.trustedSlot).isSome ∧
      step tagHashing tagVerifier s₀ (120, rotatingHeader) = .ok (s₁, [8]) ∧
      (s₁.consensusStates historicalHeader.trustedSlot).isSome ∧
      step tagHashing tagVerifier s₁ (120, historicalHeader) = .ok (s₂, [5]) ∧
      s₂.consensusStates 5 = some c ∧ ¬CommitteesAt tagHashing tagCommittee s₂.clientState 5 c := by
  refine ⟨_, _, _, _, rfl, @instantiateClient_storeInv tagHashing tagCommittee
    shortPeriodClientState periodOneConsensusState _ rfl (by decide), ?_, ?_, rfl, rfl, rfl, rfl, rfl, by decide⟩
  · -- the rotating header carries the committee of period 3, the one after its attested slot's
    intro next h
    simp only [rotatingHeader, taggedUpdate, Option.some.injEq] at h
    subst h
    decide
  · intro next h
    simp [historicalHeader, taggedUpdate] at h

end EthereumLightClient
