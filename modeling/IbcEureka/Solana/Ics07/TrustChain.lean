/-
# Consensus-state times in the Solana Tendermint client

`store_consensus_state` compares a new consensus state only with the trusted
one it was verified against, and only when a store already exists at the
target height. So the times of the stored consensus states need not grow with
their heights: a header verified against an old consensus state can land
above a newer one with an earlier time, and the client stays live
(`times_out_of_order`, a concrete run).

What does hold, given a light client whose updates land above the trusted
height and time, is a trust chain (`TrustChain`): every store except the one
`initialize` created is backed by a store at a lower height with an earlier
time (`initialized_trustChain`).

Key definitions: `Ics07Tendermint.LightClient.TimesAfterTrusted`, `Ics07Tendermint.TrustChain`.
Key theorems: `Ics07Tendermint.change_trustChain`, `Ics07Tendermint.initialized_trustChain`,
`Ics07Tendermint.times_out_of_order`.
-/
import IbcEureka.Solana.Ics07.ClientState
import IbcEureka.Lib.HeightMap

namespace Ics07Tendermint

open Txn HeightMap

variable {L : LightClient} {H : Hashes} {s s' : State}

/-- The modelling assumption on `update_client` for times: the new consensus state is after the
trusted one. -/
def LightClient.TimesAfterTrusted (L : LightClient) : Prop :=
  ∀ cs trustedState header currentTime newHeight newConsensusState,
    L.updateClient cs trustedState header currentTime = some (newHeight, some newConsensusState) →
      trustedState.timestamp < newConsensusState.timestamp

/-- Every store except the one at `root` is backed by a store at a lower height with an earlier
time. -/
def TrustChain (s : State) (root : UInt64) : Prop :=
  Chained (fun k store => s.consensusStates k = some store)
    (fun store : ConsensusStateStore => store.consensusState.timestamp) root

/-- An update either finds a store at its height and keeps it, or writes a fresh one there. -/
theorem update_store_cases (hinv : ClientInv s) {newHeight : IbcHeight} {newConsensusState trustedConsensusState :
    ConsensusState} {cs : ClientState} {stored : ConsensusStateStore × ClientState × UpdateResult}
    (hstored : stored = storeConsensusState ((s.consensusStates newHeight.revisionHeight).getD .zeroed)
      newHeight.revisionHeight newConsensusState trustedConsensusState cs) :
    s.consensusStates newHeight.revisionHeight = some stored.1 ∨
      (s.consensusStates newHeight.revisionHeight = none ∧ stored.1 = ⟨newHeight.revisionHeight, newConsensusState⟩) := by
  cases hs : s.consensusStates newHeight.revisionHeight with
  | some st =>
    obtain ⟨hheight, hne⟩ := hinv.stores _ st hs
    rw [hs, Option.getD_some] at hstored
    have hkeep := (storeConsensusState_of_initialized (by rw [hheight]; exact hne) newHeight.revisionHeight
      newConsensusState trustedConsensusState cs).1
    rw [← hstored] at hkeep
    exact .inl (by rw [hkeep])
  | none =>
    rw [hs, Option.getD_none] at hstored
    rw [hstored, storeConsensusState_of_uninitialized rfl]
    exact .inr ⟨rfl, rfl⟩

/-- Every change of an initialized client keeps a trust chain from the same root, given updates
above the trusted height and time. -/
theorem change_trustChain (hL : L.UpdatesAboveTrusted) (hT : L.TimesAfterTrusted) (hinv : ClientInv s)
    (hlive : s.clientState ≠ none) {root : UInt64} (hchain : TrustChain s root) (hc : Change L s s') :
    TrustChain s' root ∧ s'.clientState ≠ none := by
  cases hc with
  | quiet hq =>
    obtain ⟨hcs, hstores⟩ := hq
    refine ⟨?_, by rwa [hcs]⟩
    unfold TrustChain
    rw [hstores]
    exact hchain
  | create cs consensusState hnone => exact absurd hnone hlive
  | freeze cs hcs hlive' hfrozen hstores =>
    refine ⟨?_, by rw [hfrozen]; exact Option.some_ne_none _⟩
    unfold TrustChain
    rw [hstores]
    exact hchain
  | update cs trusted header newHeight newConsensusState currentTime stored hcs hlive' htrusted hout hstored hclient
      hstores =>
    refine ⟨?_, by rw [hclient]; exact Option.some_ne_none _⟩
    unfold TrustChain
    rw [hstores]
    rcases update_store_cases hinv hstored with hkept | ⟨hfresh, hnew⟩
    · rw [Function.update_eq_self_iff.mpr hkept.symm]
      exact hchain
    · -- a fresh store is backed by the trusted one, lower and earlier
      have hheight := hL cs trusted.consensusState header currentTime _ hout
      have htime := hT cs trusted.consensusState header currentTime newHeight newConsensusState hout
      have hback : ∃ k' trustedStore, k' < newHeight.revisionHeight ∧ s.consensusStates k' = some trustedStore ∧
          trustedStore.consensusState.timestamp < stored.1.consensusState.timestamp := by
        rw [hnew]
        exact ⟨_, trusted, hheight, htrusted, htime⟩
      refine hchain.extend ?_ ?_ hback
      · intro k store hk
        have hne : k ≠ newHeight.revisionHeight := by
          rintro rfl
          rw [hfresh] at hk
          cases hk
        rw [Function.update_of_ne hne]
        exact hk
      · intro k store hk
        by_cases hkn : k = newHeight.revisionHeight
        · rw [hkn, Function.update_self] at hk
          exact .inr ⟨hkn, by rw [← Option.some.inj hk]⟩
        · rw [Function.update_of_ne hkn] at hk
          exact .inl hk

/-- What `initialize` creates where no store was is a trust chain from its height: the only store. -/
theorem create_trustChain (hempty : ∀ k, s.consensusStates k = none) {cs : ClientState}
    {consensusState : ConsensusState}
    (hstores : s'.consensusStates = Function.update s.consensusStates cs.latestHeight.revisionHeight
      (some ⟨cs.latestHeight.revisionHeight, consensusState⟩)) :
    TrustChain s' cs.latestHeight.revisionHeight := by
  intro k store hk
  left
  by_contra hne
  rw [hstores, Function.update_of_ne hne, hempty k] at hk
  cases hk

/-- **The trust chain from the initial height.** Given updates above the trusted height and time,
along every run after `initialize` every store but the one `initialize` wrote is backed by a store
at a lower height with an earlier time. -/
theorem initialized_trustChain (hL : L.UpdatesAboveTrusted) (hT : L.TimesAfterTrusted) {isUpgradeAuthority : Bool}
    {cs₀ : ClientState} {consensusState₀ : ConsensusState} {accessManager : Bytes} {s₀ : State}
    {log₀ : List UpdateResult}
    (hinit : step L H State.empty (.initializeClient isUpgradeAuthority cs₀ consensusState₀ accessManager) =
      .ok (s₀, log₀)) (is : List Instruction) :
    TrustChain (exec (step L H) (s₀, log₀) is).1 cs₀.latestHeight.revisionHeight := by
  obtain ⟨-, -, -, hcs, hstores, -⟩ := initializeClient_ok hinit
  have hlive : s₀.clientState ≠ none := by rw [hcs]; exact Option.some_ne_none _
  -- the invariant: the client is initialized and keeps its trust chain from the initial height
  have hrun := exec_induction (step L H)
    (fun s _ => ClientInv s ∧ s.clientState ≠ none ∧ TrustChain s cs₀.latestHeight.revisionHeight)
    (fun _ _ _ _ _ hinv hok => by
      obtain ⟨hchain, hlive'⟩ := change_trustChain hL hT hinv.1 hinv.2.1 hinv.2.2 (step_change hok)
      exact ⟨step_clientInv hL hinv.1 hok, hlive', hchain⟩)
    is (s₀, log₀) ⟨step_clientInv hL clientInv_empty hinit, hlive, create_trustChain (fun _ => rfl) hstores⟩
  exact hrun.2.2

/-! ## Times out of order -/

/-- A light client for a concrete run: a header is three bytes, its trusted height, its new height
(revision 0) and its new time; `update_client` accepts it when the new height and time are above
the trusted ones. -/
def timedClient : LightClient where
  Header := UInt8 × UInt8 × UInt8
  Misbehaviour := Unit
  deserializeHeader
    | [trusted, new, time] => some (trusted, new, time)
    | _ => none
  trustedHeight header := ⟨0, header.1.toUInt64⟩
  updateClient _ trustedState header _ :=
    if header.1 < header.2.1 ∧ trustedState.timestamp < header.2.2.toUInt64 then
      some (⟨0, header.2.1.toUInt64⟩, some ⟨header.2.2.toUInt64, zeroWord, zeroWord⟩)
    else none
  deserializeMisbehaviour _ := none
  checkForMisbehaviour _ _ _ _ _ := none

theorem timedClient_updatesAboveTrusted : timedClient.UpdatesAboveTrusted := by
  intro cs trustedState header currentTime out h
  simp only [timedClient] at h
  split at h
  · cases h
    show header.1.toUInt64 < header.2.1.toUInt64
    exact UInt64.lt_iff_toNat_lt.mpr (by simpa using UInt8.lt_iff_toNat_lt.mp ‹_ ∧ _›.1)
  · cases h

theorem timedClient_timesAfterTrusted : timedClient.TimesAfterTrusted := by
  intro cs trustedState header currentTime newHeight newConsensusState h
  simp only [timedClient] at h
  split at h
  · cases h
    exact ‹_ ∧ _›.2
  · cases h

/-- `initialize` at height 10 and time 100, a header for height 20 at time 200 verified against
height 10, then one for height 30 at time 150, verified against height 10 as well. -/
def outOfOrderRun : List Instruction :=
  [.initializeClient true ⟨[1], 1, 3, 1, 2, 1, ⟨0, 0⟩, ⟨0, 10⟩⟩ ⟨100, zeroWord, zeroWord⟩ [1],
    .uploadHeaderChunk [2] true ⟨20, 0, [10, 20, 200]⟩,
    .assembleAndUpdateClient [2] true 20 1 10 [.headerChunk [2] 20 0] 0,
    .uploadHeaderChunk [2] true ⟨30, 0, [10, 30, 150]⟩,
    .assembleAndUpdateClient [2] true 30 1 10 [.headerChunk [2] 30 0] 0]

/-- The program as the `initialize` of `outOfOrderRun` leaves it. -/
def outOfOrderInitialized : State :=
  ((State.empty.setClientState ⟨[1], 1, 3, 1, 2, 1, ⟨0, 0⟩, ⟨0, 10⟩⟩).setConsensusState 10
    ⟨10, ⟨100, zeroWord, zeroWord⟩⟩).setAccessManager [1]

/-- **Times out of order.** Both updates of `outOfOrderRun` succeed, and the live client then holds
the consensus state at time 200 at height 20, and the one at time 150 at height 30. -/
theorem times_out_of_order :
    timedClient.UpdatesAboveTrusted ∧ timedClient.TimesAfterTrusted ∧
      (exec (step timedClient ⟨id, id⟩) (State.empty, []) outOfOrderRun).2 = [.UpdateSuccess, .UpdateSuccess] ∧
      (exec (step timedClient ⟨id, id⟩) (State.empty, []) outOfOrderRun).1.clientState.map ClientState.isFrozen =
        some false ∧
      (exec (step timedClient ⟨id, id⟩) (State.empty, []) outOfOrderRun).1.consensusStates 20 =
        some ⟨20, ⟨200, zeroWord, zeroWord⟩⟩ ∧
      (exec (step timedClient ⟨id, id⟩) (State.empty, []) outOfOrderRun).1.consensusStates 30 =
        some ⟨30, ⟨150, zeroWord, zeroWord⟩⟩ :=
  ⟨timedClient_updatesAboveTrusted, timedClient_timesAfterTrusted, by decide, by decide, by decide, by decide⟩

end Ics07Tendermint
