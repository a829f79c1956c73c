/-
# Consensus-state times in the two Tendermint clients

The Solana program `ics07-tendermint` and the Solidity contract
`SP1ICS07Tendermint` decide an update the same way: a new consensus state is
stored where none is, and checked against what is stored (and against the
trusted one's time) only where one already is. Neither compares it with the
consensus states stored around its height. So in both, a header verified
against an old consensus state can be stored above a newer one with an earlier
time, and the client stays live (`tendermint_times_out_of_order`).

What both keep, given that header verification puts the new height and time
above the trusted ones, is the trust chain: every stored consensus state but
the initial one is backed by one stored at a lower height with an earlier
time (`tendermint_trust_chain`).

Key theorems: `tendermint_trust_chain`, `tendermint_times_out_of_order`.
-/
import IbcEureka.Solana.Ics07.TrustChain
import IbcEureka.Solidity.SP1ICS07Invariants

namespace CrossChain

open Txn HeightMap

/-- **The trust chain, in both clients.** In the Solana program, given a light client whose updates
land above the trusted height and time, along every run after `initialize` every store but the one
at the height `initialize` wrote is backed by a store at a lower height with an earlier time. In the
Solidity contract, given an injective Keccak-256 that never returns the zero word and update
programs that prove times above the trusted ones, the same holds along every run from the
constructor, with the constructor's height as the root. -/
theorem tendermint_trust_chain {L : Ics07Tendermint.LightClient} (hL : L.UpdatesAboveTrusted)
    (hT : L.TimesAfterTrusted) {H₁ : Hashes} {isUpgradeAuthority : Bool} {cs₀ : Ics07Tendermint.ClientState}
    {consensusState₀ : Ics07Tendermint.ConsensusState} {accessManager : Bytes} {s₁ : Ics07Tendermint.State}
    {log₁ : List Ics07Tendermint.UpdateResult}
    (hinit₁ : Ics07Tendermint.step L H₁ Ics07Tendermint.State.empty
      (.initializeClient isUpgradeAuthority cs₀ consensusState₀ accessManager) = .ok (s₁, log₁))
    (is₁ : List Ics07Tendermint.Instruction) {P : SP1ICS07Tendermint.ProgramVkeys}
    {X : SP1ICS07Tendermint.Externals} {H : Hashes} (hinj : Function.Injective H.keccak256)
    (hnz : ∀ b, H.keccak256 b ≠ zeroWord) (hX : SP1ICS07Tendermint.ProvesAboveTrusted P X)
    {clientState : SP1ICS07Tendermint.ClientState} {consensusState : Bytes} {s₀ : SP1ICS07Tendermint.State}
    (hinit : SP1ICS07Tendermint.constructor clientState consensusState = .ok s₀) (is : List SP1ICS07Tendermint.Input) :
    Ics07Tendermint.TrustChain (exec (Ics07Tendermint.step L H₁) (s₁, log₁) is₁).1 cs₀.latestHeight.revisionHeight ∧
      Chained (SP1ICS07Tendermint.StoredAt H (exec (SP1ICS07Tendermint.step P X H) (s₀, []) is).1)
        SP1ICS07Tendermint.ConsensusState.timestamp clientState.latestHeight.revisionHeight :=
  ⟨Ics07Tendermint.initialized_trustChain hL hT hinit₁ is₁, SP1ICS07Tendermint.run_chained hinj hnz hX hinit is⟩

theorem tendermint_trust_chain_sample :
    Ics07Tendermint.TrustChain
      (exec (Ics07Tendermint.step Ics07Tendermint.timedClient ⟨id, id⟩) (Ics07Tendermint.outOfOrderInitialized, [])
        Ics07Tendermint.outOfOrderRun.tail).1 10 ∧
      Chained (SP1ICS07Tendermint.StoredAt ICS26Router.consHashes
          (exec (SP1ICS07Tendermint.step SP1ICS07Tendermint.sampleVkeys
            (SP1ICS07Tendermint.tableExternals SP1ICS07Tendermint.outOfOrderUpdates) ICS26Router.consHashes)
            (SP1ICS07Tendermint.sampleDeployment, []) SP1ICS07Tendermint.outOfOrderCalls).1)
        SP1ICS07Tendermint.ConsensusState.timestamp SP1ICS07Tendermint.sampleClientState.latestHeight.revisionHeight := by
  have hinit₁ : Ics07Tendermint.step Ics07Tendermint.timedClient ⟨id, id⟩ Ics07Tendermint.State.empty
      (.initializeClient true ⟨[1], 1, 3, 1, 2, 1, ⟨0, 0⟩, ⟨0, 10⟩⟩ ⟨100, zeroWord, zeroWord⟩ [1]) =
      .ok (Ics07Tendermint.outOfOrderInitialized, []) := rfl
  exact tendermint_trust_chain Ics07Tendermint.timedClient_updatesAboveTrusted
    Ics07Tendermint.timedClient_timesAfterTrusted hinit₁ Ics07Tendermint.outOfOrderRun.tail
    ICS26Router.consHashes_keccak256_injective ICS26Router.consHashes_keccak256_ne_zeroWord
    (SP1ICS07Tendermint.tableExternals_provesAboveTrusted _ _) (SP1ICS07Tendermint.constructor_eq (by decide))
    SP1ICS07Tendermint.outOfOrderCalls

/-- **Both clients store times out of order.** Each has a reachable state, with its client live,
where the consensus state at height 20 has time 200 and the one at height 30 has time 150; the
light client and the update programs of the runs put every new height and time above the trusted
ones. -/
theorem tendermint_times_out_of_order :
    (∃ s log, Ics07Tendermint.Reachable Ics07Tendermint.timedClient ⟨id, id⟩ s log ∧
      Ics07Tendermint.timedClient.UpdatesAboveTrusted ∧ Ics07Tendermint.timedClient.TimesAfterTrusted ∧
      s.clientState.map Ics07Tendermint.ClientState.isFrozen = some false ∧
      s.consensusStates 20 = some ⟨20, ⟨200, zeroWord, zeroWord⟩⟩ ∧
      s.consensusStates 30 = some ⟨30, ⟨150, zeroWord, zeroWord⟩⟩) ∧
    (∃ consensusState s₀ is, SP1ICS07Tendermint.constructor SP1ICS07Tendermint.sampleClientState consensusState = .ok s₀ ∧
      SP1ICS07Tendermint.ProvesAboveTrusted SP1ICS07Tendermint.sampleVkeys
        (SP1ICS07Tendermint.tableExternals SP1ICS07Tendermint.outOfOrderUpdates) ∧
      (exec (SP1ICS07Tendermint.step SP1ICS07Tendermint.sampleVkeys
        (SP1ICS07Tendermint.tableExternals SP1ICS07Tendermint.outOfOrderUpdates) ICS26Router.consHashes)
          (s₀, []) is).1.clientState.isFrozen = false ∧
      SP1ICS07Tendermint.StoredAt ICS26Router.consHashes (exec (SP1ICS07Tendermint.step SP1ICS07Tendermint.sampleVkeys
        (SP1ICS07Tendermint.tableExternals SP1ICS07Tendermint.outOfOrderUpdates) ICS26Router.consHashes)
          (s₀, []) is).1 20 (SP1ICS07Tendermint.sampleConsensusState 200) ∧
      SP1ICS07Tendermint.StoredAt ICS26Router.consHashes (exec (SP1ICS07Tendermint.step SP1ICS07Tendermint.sampleVkeys
        (SP1ICS07Tendermint.tableExternals SP1ICS07Tendermint.outOfOrderUpdates) ICS26Router.consHashes)
          (s₀, []) is).1 30 (SP1ICS07Tendermint.sampleConsensusState 150)) := by
  obtain ⟨hL, hT, -, hlive, h20, h30⟩ := Ics07Tendermint.times_out_of_order
  obtain ⟨hX, hinit, -, hlive', h20', h30'⟩ := SP1ICS07Tendermint.sp1_times_out_of_order
  have hreach : Ics07Tendermint.Reachable Ics07Tendermint.timedClient ⟨id, id⟩
      (exec (Ics07Tendermint.step Ics07Tendermint.timedClient ⟨id, id⟩) (Ics07Tendermint.State.empty, [])
        Ics07Tendermint.outOfOrderRun).1
      (exec (Ics07Tendermint.step Ics07Tendermint.timedClient ⟨id, id⟩) (Ics07Tendermint.State.empty, [])
        Ics07Tendermint.outOfOrderRun).2 :=
    ⟨Ics07Tendermint.outOfOrderRun, rfl⟩
  unfold SP1ICS07Tendermint.outOfOrderRun at hlive' h20' h30'
  exact ⟨⟨_, _, hreach, hL, hT, hlive, h20, h30⟩,
    ⟨_, _, SP1ICS07Tendermint.outOfOrderCalls, hinit, hX, hlive', h20', h30'⟩⟩

end CrossChain
