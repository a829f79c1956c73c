/-
# What the attestation light client on Solana keeps

An instruction of the `attestation` program fails, changes nothing, creates
the client state, freezes a live client, or writes a state attestation's
height and timestamp into the empty account of its height (`Change`,
`step_change`). What it writes rests on `verify_attestation`
(`verifyAttestation_quorum`): the attestation data decodes to that height and
timestamp, and at least `min_required_sigs` distinct attestors are recovered
from signatures over its digest (`StateAttested`).

So along every run from `initialize` (`run_clientInv`, `run_keeps`,
`run_frozen`): the attestor set and the threshold never change, every account
holds its own height and a non-zero timestamp so attested, no account ever
changes, and the latest height is the largest of zero and every height with an
account; a frozen client changes no more. A membership answer rests on a
packet attestation for its height in the same way
(`verifyMembership_attested`, `verifyNonMembership_attested`).

Key definitions: `Attestation.Recovered`, `Attestation.StateAttested`, `Attestation.PacketAttested`,
`Attestation.Change`, `Attestation.ClientInv`.
Key theorems: `Attestation.verifyAttestation_quorum`, `Attestation.updateClient_change`,
`Attestation.step_change`, `Attestation.change_clientInv`, `Attestation.run_clientInv`, `Attestation.run_keeps`.
-/
import Mathlib.Data.List.Destutter
import IbcEureka.Solana.Attestation
import IbcEureka.Lib.Quorum
import IbcEureka.Lib.HeightMap

namespace Attestation

open Txn Quorum HeightMap

open AttestationLightClient (StateAttestation PacketAttestation)

open Ics26Router (MembershipMsg NonMembershipMsg)

variable {X : Externals} {H : Hashes} {s s' : State}

/-! ## One lemma per function -/

/-- Some signature over `digest` recovers to the address `a`. -/
def Recovered (X : Externals) (H : Hashes) (digest : Bytes) (a : Bytes) : Prop :=
  ∃ sig, recoverEthAddress X H digest sig = .ok a

theorem recordSigner_eq_ok {clientState : ClientState} {digest sig : Bytes} {seen seen' : List Bytes}
    (h : recordSigner X H clientState digest seen sig = .ok seen') :
    ∃ a, seen' = seen ++ [a] ∧ a ∉ seen ∧ (recoverEthAddress X H digest sig = .ok a ∧ a ∈ clientState.attestorAddresses) := by
  simp only [recordSigner, bind_eq_ok, require_eq_ok, pure_eq_ok] at h
  obtain ⟨a, hrec, _, hnew, _, hmem, rfl⟩ := h
  exact ⟨a, rfl, hnew, hrec, hmem⟩

/-- **The signature check.** Signatures that pass `verify_attestation` recover to at least
`min_required_sigs` distinct attestors. -/
theorem verifyAttestation_quorum {clientState : ClientState} {data : Bytes} {sigs : List Bytes}
    {attestationType : AttestationType} {u : Unit}
    (h : verifyAttestation X H clientState data sigs attestationType = .ok u) :
    HasQuorum (· ∈ clientState.attestorAddresses) (Recovered X H (taggedSigningInput H data attestationType))
      clientState.minRequiredSigs.toNat := by
  simp only [verifyAttestation, bind_eq_ok, require_eq_ok] at h
  obtain ⟨_, -, _, hlen, seen, hloop, -⟩ := h
  have hgood : ∀ sig a, (recoverEthAddress X H (taggedSigningInput H data attestationType) sig = .ok a ∧
      a ∈ clientState.attestorAddresses) →
      a ∈ clientState.attestorAddresses ∧ Recovered X H (taggedSigningInput H data attestationType) a :=
    fun sig _ ⟨hrec, hmem⟩ => ⟨hmem, sig, hrec⟩
  exact hasQuorum_of_foldlM (fun _ _ _ hstep => recordSigner_eq_ok hstep) hgood hlen hloop

/-- A state attestation for height `h` and timestamp `t`: some attestation data decodes to them,
and a quorum of `attestors` is recovered from signatures over its digest. -/
def StateAttested (X : Externals) (H : Hashes) (attestors : List Bytes) (minRequiredSigs : UInt8) (h t : UInt64) :
    Prop :=
  ∃ data, X.decodeStateAttestation data = some ⟨h, t⟩ ∧
    HasQuorum (· ∈ attestors) (Recovered X H (taggedSigningInput H data .State)) minRequiredSigs.toNat

/-- A packet attestation `pa` for height `h`: some attestation data decodes to it, and a quorum of
`attestors` is recovered from signatures over its digest. -/
def PacketAttested (X : Externals) (H : Hashes) (attestors : List Bytes) (minRequiredSigs : UInt8) (h : UInt64)
    (pa : PacketAttestation) : Prop :=
  pa.height = h ∧ ∃ data, X.decodePacketAttestation data = some pa ∧
    HasQuorum (· ∈ attestors) (Recovered X H (taggedSigningInput H data .Packet)) minRequiredSigs.toNat

theorem loadAccounts_ok {height : UInt64} {clientState : ClientState} {store : ConsensusStateStore}
    (h : loadAccounts s height = .ok (clientState, store)) :
    s.clientState = some clientState ∧ clientState.isFrozen = false ∧ s.consensusStates height = some store ∧
      store.timestamp ≠ 0 := by
  simp only [loadAccounts, bind_eq_ok, expect_eq_ok, require_eq_ok, pure_eq_ok, Prod.mk.injEq] at h
  obtain ⟨cs, hcs, _, hlive, st, hst, _, hts, rfl, rfl⟩ := h
  exact ⟨hcs, hlive, hst, hts⟩

theorem attestedPackets_ok {clientState : ClientState} {store : ConsensusStateStore} {proofBytes : Bytes}
    {pa : PacketAttestation} (h : attestedPackets X H clientState store proofBytes = .ok pa) :
    PacketAttested X H clientState.attestorAddresses clientState.minRequiredSigs store.height pa := by
  simp only [attestedPackets, bind_eq_ok, expect_eq_ok, require_eq_ok, pure_eq_ok] at h
  obtain ⟨proof, -, pa', hdec, _, hheight, _, hsigs, _, -, rfl⟩ := h
  exact ⟨hheight, proof.attestationData, hdec, verifyAttestation_quorum hsigs⟩

/-- **A membership answer rests on a packet attestation.** A `verify_membership` that succeeds
found a live client and a timestamp in the account at the message's height, and a packet
attestation for that height, of a quorum of attestors, whose first entry for the path's hash has
the value as its non-zero commitment. -/
theorem verifyMembership_attested {msg : MembershipMsg} {u : Unit} (h : verifyMembership X H s msg = .ok u) :
    ∃ cs store, s.clientState = some cs ∧ cs.isFrozen = false ∧ s.consensusStates msg.height = some store ∧
      store.timestamp ≠ 0 ∧ ∃ pa, PacketAttested X H cs.attestorAddresses cs.minRequiredSigs msg.height pa ∧
        ∃ p, pa.packets.find? (fun p => p.path = H.keccak256 (msg.path.headD [])) = some p ∧
          p.commitment ≠ zeroWord ∧ p.commitment = msg.value := by
  simp only [verifyMembership, bind_eq_ok, require_eq_ok, expect_eq_ok] at h
  obtain ⟨⟨cs, store⟩, hload, _, -, _, -, _, -, _, hheight, pa, hpackets, p, hfind, _, hnz, _, -, hvalue⟩ := h
  obtain ⟨hcs, hlive, hstore, hts⟩ := loadAccounts_ok hload
  have hattested := attestedPackets_ok hpackets
  rw [← hheight] at hattested
  exact ⟨cs, store, hcs, hlive, hstore, hts, pa, hattested, p, hfind, hnz, hvalue⟩

/-- **A non-membership answer rests on a packet attestation.** A `verify_non_membership` that
returns `t` found a live client and the timestamp `t` in the account at the message's height, and
a packet attestation for that height, of a quorum of attestors, whose first entry for the path's
hash has the zero commitment. -/
theorem verifyNonMembership_attested {msg : NonMembershipMsg} {t : UInt64}
    (h : verifyNonMembership X H s msg = .ok t) :
    ∃ cs store, s.clientState = some cs ∧ cs.isFrozen = false ∧ s.consensusStates msg.height = some store ∧
      store.timestamp = t ∧ t ≠ 0 ∧ ∃ pa, PacketAttested X H cs.attestorAddresses cs.minRequiredSigs msg.height pa ∧
        ∃ p, pa.packets.find? (fun p => p.path = H.keccak256 (msg.path.headD [])) = some p ∧ p.commitment = zeroWord := by
  simp only [verifyNonMembership, bind_eq_ok, require_eq_ok, expect_eq_ok, pure_eq_ok] at h
  obtain ⟨⟨cs, store⟩, hload, _, -, _, -, _, hheight, pa, hpackets, p, hfind, _, hzero, rfl⟩ := h
  obtain ⟨hcs, hlive, hstore, hts⟩ := loadAccounts_ok hload
  have hattested := attestedPackets_ok hpackets
  rw [← hheight] at hattested
  exact ⟨cs, store, hcs, hlive, hstore, rfl, hts, pa, hattested, p, hfind, hzero⟩

theorem initializeClient_ok {isUpgradeAuthority : Bool} {attestors : List Bytes} {m : UInt8} {am : Ics26Router.Pubkey}
    (h : initializeClient s isUpgradeAuthority attestors m am = .ok s') :
    s.clientState = none ∧ s'.clientState = some ⟨sortedAttestors attestors, m, 0, false⟩ ∧
      s'.consensusStates = s.consensusStates := by
  simp only [initializeClient, bind_eq_ok, require_eq_ok, pure_eq_ok] at h
  obtain ⟨_, hnone, _, -, _, -, _, -, _, -, _, -, _, -, rfl⟩ := h
  exact ⟨hnone, rfl, rfl⟩

/-! ## What an instruction can do -/

/-- What a successful instruction does to the client state and the consensus-state accounts. -/
inductive Change (X : Externals) (H : Hashes) (s s' : State) : Prop
  /-- Neither changes. -/
  | quiet : s'.clientState = s.clientState → s'.consensusStates = s.consensusStates → Change X H s s'
  /-- `initialize` creates the client state, at latest height zero. -/
  | create (cs : ClientState) : s.clientState = none → s'.clientState = some cs → cs.latestHeight = 0 →
      s'.consensusStates = s.consensusStates → Change X H s s'
  /-- A live client freezes. -/
  | freeze (cs : ClientState) : s.clientState = some cs → cs.isFrozen = false →
      s'.clientState = some { cs with isFrozen := true } → s'.consensusStates = s.consensusStates → Change X H s s'
  /-- A live client writes, into the account of a height without a timestamp, that height and a
  non-zero timestamp that a quorum attested there. -/
  | store (cs : ClientState) (attestation : StateAttestation) : s.clientState = some cs → cs.isFrozen = false →
      0 < attestation.height → 0 < attestation.timestamp →
      StateAttested X H cs.attestorAddresses cs.minRequiredSigs attestation.height attestation.timestamp →
      ((s.consensusStates attestation.height).getD .zeroed).timestamp = 0 →
      s' = storeAttestation s cs attestation → Change X H s s'

theorem updateClient_change {hasRole : Bool} {newHeight : UInt64} {proofBytes : Bytes} {evs : List Output}
    (h : updateClient X H s hasRole newHeight proofBytes = .ok (s', evs)) : Change X H s s' := by
  simp only [updateClient, bind_eq_ok, expect_eq_ok, require_eq_ok] at h
  obtain ⟨cs, hcs, _, -, _, -, _, hlive, proof, -, attestation, hdec, _, hsigs, _, ⟨hh, ht⟩, _, rfl, hresult⟩ := h
  have hattested : StateAttested X H cs.attestorAddresses cs.minRequiredSigs attestation.height attestation.timestamp :=
    ⟨proof.attestationData, hdec, verifyAttestation_quorum hsigs⟩
  by_cases hempty : ((s.consensusStates attestation.height).getD .zeroed).timestamp = 0
  · simp only [hempty, ne_eq, not_true_eq_false, if_false, pure_eq_ok, Prod.mk.injEq] at hresult
    exact .store cs attestation hcs hlive hh ht hattested hempty hresult.1.symm
  · -- an account with a timestamp: the client freezes on a conflict, and is left alone otherwise
    simp only [hempty, ne_eq, not_false_eq_true, if_true] at hresult
    split at hresult
    · obtain ⟨rfl, -⟩ := Prod.mk.inj (pure_eq_ok.mp hresult)
      exact .freeze cs hcs hlive rfl rfl
    · obtain ⟨rfl, -⟩ := Prod.mk.inj (pure_eq_ok.mp hresult)
      exact .quiet rfl rfl

theorem step_change {i : Instruction} {evs : List Output} (h : step X H s i = .ok (s', evs)) : Change X H s s' := by
  cases i with
  | initializeClient isUpgradeAuthority attestors m am =>
    simp only [step, bind_eq_ok, pure_eq_ok, Prod.mk.injEq] at h
    obtain ⟨s₁, hinit, rfl, -⟩ := h
    obtain ⟨hnone, hcs, hstores⟩ := initializeClient_ok hinit
    exact .create _ hnone hcs rfl hstores
  | updateClient hasRole newHeight proof => exact updateClient_change h
  | verifyMembership msg =>
    simp only [step, bind_eq_ok, pure_eq_ok, Prod.mk.injEq] at h
    obtain ⟨_, -, rfl, -⟩ := h
    exact .quiet rfl rfl
  | verifyNonMembership msg =>
    simp only [step, bind_eq_ok, pure_eq_ok, Prod.mk.injEq] at h
    obtain ⟨_, -, rfl, -⟩ := h
    exact .quiet rfl rfl
  | clientStatus =>
    simp only [step, bind_eq_ok, pure_eq_ok, Prod.mk.injEq] at h
    obtain ⟨_, -, rfl, -⟩ := h
    exact .quiet rfl rfl

/-! ## The invariant -/

/-- What every state after `initialize` satisfies, for the attestor set and the threshold it
configured: they stay; every account holds its own height and a non-zero timestamp attested there
by a quorum; the latest height is the largest of zero and every height with an account. -/
structure ClientInv (X : Externals) (H : Hashes) (attestors : List Bytes) (minRequiredSigs : UInt8) (s : State) :
    Prop where
  config : ∃ cs, s.clientState = some cs ∧ cs.attestorAddresses = attestors ∧ cs.minRequiredSigs = minRequiredSigs
  stores : ∀ k store, s.consensusStates k = some store →
    store.height = k ∧ 0 < store.timestamp ∧ StateAttested X H attestors minRequiredSigs k store.timestamp
  latest : ∀ cs, s.clientState = some cs → IsMax (· ≠ none) s.consensusStates 0 cs.latestHeight

variable {attestors : List Bytes} {m : UInt8}

/-- Under the invariant, an account without a timestamp is no account. -/
theorem ClientInv.none_of_timestamp (hinv : ClientInv X H attestors m s) {k : UInt64}
    (hempty : ((s.consensusStates k).getD .zeroed).timestamp = 0) : s.consensusStates k = none := by
  cases hk : s.consensusStates k with
  | none => rfl
  | some store =>
    rw [hk, Option.getD_some] at hempty
    have hpos := (hinv.stores k store hk).2.1
    rw [hempty] at hpos
    exact absurd hpos (UInt64.lt_irrefl 0)

theorem ClientInv.config_eq (hinv : ClientInv X H attestors m s) {cs : ClientState} (hcs : s.clientState = some cs) :
    cs.attestorAddresses = attestors ∧ cs.minRequiredSigs = m := by
  obtain ⟨cs', hcs', hatt, hmin⟩ := hinv.config
  rw [hcs] at hcs'
  cases hcs'
  exact ⟨hatt, hmin⟩

theorem storeAttestation_clientState (cs : ClientState) (attestation : StateAttestation) :
    (storeAttestation s cs attestation).clientState = some (if attestation.height > cs.latestHeight then
      { cs with latestHeight := attestation.height } else cs) := rfl

theorem storeAttestation_consensusStates (cs : ClientState) (attestation : StateAttestation) :
    (storeAttestation s cs attestation).consensusStates =
      Function.update s.consensusStates attestation.height (some ⟨attestation.height, attestation.timestamp⟩) := rfl

/-- Every change keeps the invariant. -/
theorem change_clientInv (hinv : ClientInv X H attestors m s) (hc : Change X H s s') : ClientInv X H attestors m s' := by
  cases hc with
  | quiet hcs hstores =>
    refine ⟨?_, ?_, ?_⟩
    · rw [hcs]
      exact hinv.config
    · rw [hstores]
      exact hinv.stores
    · rw [hcs, hstores]
      exact hinv.latest
  | create cs hnone _ _ _ =>
    obtain ⟨_, hsome, -⟩ := hinv.config
    rw [hnone] at hsome
    cases hsome
  | freeze cs hcs _ hcs' hstores =>
    obtain ⟨hatt, hmin⟩ := hinv.config_eq hcs
    refine ⟨⟨_, hcs', hatt, hmin⟩, ?_, fun cs' hcs'' => ?_⟩
    · rw [hstores]
      exact hinv.stores
    · -- freezing keeps the latest height
      rw [hcs'] at hcs''
      cases hcs''
      rw [hstores]
      exact hinv.latest cs hcs
  | store cs attestation hcs _ _ ht hattested hempty hs =>
    obtain ⟨hatt, hmin⟩ := hinv.config_eq hcs
    rw [hatt, hmin] at hattested
    subst hs
    have hm := hinv.latest cs hcs
    refine ⟨?_, fun k store hk => ?_, fun cs' hcs' => ?_⟩
    · refine ⟨_, storeAttestation_clientState cs attestation, ?_⟩
      split
      · exact ⟨hatt, hmin⟩
      · exact ⟨hatt, hmin⟩
    · -- the new account holds its height and an attested timestamp
      rw [storeAttestation_consensusStates] at hk
      by_cases hkh : k = attestation.height
      · rw [hkh, Function.update_self] at hk
        cases hk
        exact ⟨hkh.symm, ht, hkh ▸ hattested⟩
      · rw [Function.update_of_ne hkh] at hk
        exact hinv.stores k store hk
    · rw [storeAttestation_clientState] at hcs'
      cases hcs'
      rw [storeAttestation_consensusStates]
      by_cases habove : attestation.height > cs.latestHeight
      · rw [if_pos habove]
        exact hm.update (Option.some_ne_none _) (UInt64.le_of_lt habove) (UInt64.le_refl _) (.inr rfl)
      · rw [if_neg habove]
        exact hm.update (Option.some_ne_none _) (UInt64.le_refl _) (UInt64.not_lt.mp habove) (.inl rfl)

/-- No account, once written, changes. -/
theorem change_keeps (hinv : ClientInv X H attestors m s) (hc : Change X H s s') :
    Keeps (· ≠ none) s.consensusStates s'.consensusStates := by
  cases hc with
  | quiet _ hstores =>
    rw [hstores]
    exact Keeps.refl _
  | create _ _ _ _ hstores =>
    rw [hstores]
    exact Keeps.refl _
  | freeze _ _ _ _ hstores =>
    rw [hstores]
    exact Keeps.refl _
  | store cs attestation _ _ _ _ _ hempty hs =>
    rw [hs, storeAttestation_consensusStates]
    exact keeps_update (· ≠ none) (not_not.mpr (hinv.none_of_timestamp hempty)) _

/-- A frozen client's instructions change neither the client state nor an account. -/
theorem change_of_frozen {cs : ClientState} (hcs : s.clientState = some cs) (hfrozen : cs.isFrozen = true)
    (hc : Change X H s s') : s'.clientState = s.clientState ∧ s'.consensusStates = s.consensusStates := by
  cases hc with
  | quiet hcs' hstores => exact ⟨hcs', hstores⟩
  | create _ hnone _ _ _ =>
    rw [hcs] at hnone
    cases hnone
  | freeze cs' hcs' hlive _ _ =>
    rw [hcs] at hcs'
    cases hcs'
    rw [hfrozen] at hlive
    cases hlive
  | store cs' _ hcs' hlive _ _ _ _ _ =>
    rw [hcs] at hcs'
    cases hcs'
    rw [hfrozen] at hlive
    cases hlive

/-! ## Along every run -/

theorem initializeClient_clientInv {b : Bool} {am : Ics26Router.Pubkey} {s₀ : State}
    (h : initializeClient State.empty b attestors m am = .ok s₀) : ClientInv X H (sortedAttestors attestors) m s₀ := by
  obtain ⟨-, hcs, hstores⟩ := initializeClient_ok h
  refine ⟨⟨_, hcs, rfl, rfl⟩, fun k store hk => ?_, fun cs hcs' => ?_⟩
  · rw [hstores] at hk
    cases hk
  · -- no account yet, and the latest height zero
    rw [hcs] at hcs'
    cases hcs'
    rw [hstores]
    exact ⟨UInt64.le_refl _, .inl rfl, fun k hk => absurd rfl hk⟩

theorem run_clientInv {s₀ : State} (hinv : ClientInv X H attestors m s₀) (log : List Output) (is : List Instruction) :
    ClientInv X H attestors m (exec (step X H) (s₀, log) is).1 :=
  exec_induction (step X H) (fun s _ => ClientInv X H attestors m s)
    (fun _ _ _ _ _ hi hok => change_clientInv hi (step_change hok)) is (s₀, log) hinv

theorem run_keeps (hinv : ClientInv X H attestors m s) (log : List Output) (is : List Instruction) :
    Keeps (· ≠ none) s.consensusStates (exec (step X H) (s, log) is).1.consensusStates :=
  exec_rel (step X H) (fun s _ => ClientInv X H attestors m s)
    (fun a b => Keeps (· ≠ none) a.consensusStates b.consensusStates)
    (fun _ _ _ _ _ hi hok => change_clientInv hi (step_change hok)) (fun _ => Keeps.refl _)
    (fun _ _ _ hab hbc => hab.trans hbc) (fun _ _ _ _ _ hi hok => change_keeps hi (step_change hok)) is (s, log) hinv

/-- A frozen client stays as it is along any run. -/
theorem run_frozen {cs : ClientState} (hcs : s.clientState = some cs) (hfrozen : cs.isFrozen = true)
    (log : List Output) (is : List Instruction) :
    (exec (step X H) (s, log) is).1.clientState = s.clientState ∧
      (exec (step X H) (s, log) is).1.consensusStates = s.consensusStates :=
  exec_rel (step X H) (fun a _ => a.clientState = s.clientState)
    (fun a b => b.clientState = a.clientState ∧ b.consensusStates = a.consensusStates)
    (fun _ _ _ _ _ ha hok => (change_of_frozen (ha.trans hcs) hfrozen (step_change hok)).1.trans ha)
    (fun _ => ⟨rfl, rfl⟩) (fun _ _ _ hab hbc => ⟨hbc.1.trans hab.1, hbc.2.trans hab.2⟩)
    (fun _ _ _ _ _ ha hok => change_of_frozen (ha.trans hcs) hfrozen (step_change hok)) is (s, log) rfl

/-! ## Under a model of recovery -/

/-- The zero address, as twenty bytes. -/
def zeroAddress : Bytes := List.replicate ethAddressLen 0

theorem mem_of_mem_sortedAttestors {l : List Bytes} {a : Bytes} (h : a ∈ sortedAttestors l) : a ∈ l :=
  (List.mem_insertionSort _).mp ((List.destutter_sublist _ _).subset h)

section Signed

variable {signed : Bytes → Bytes → Prop}

/-- A recovered address is the address of the public key `secp256k1_recover` gave, so it is never
the zero address while Keccak-256 never ends in twenty zero bytes. -/
theorem recoverEthAddress_ne_zero (hnz : ∀ pubkey, pubkeyToEthAddress H pubkey ≠ zeroAddress) {digest sig a : Bytes}
    (h : recoverEthAddress X H digest sig = .ok a) : a ≠ zeroAddress := by
  simp only [recoverEthAddress, bind_eq_ok, expect_eq_ok, pure_eq_ok] at h
  obtain ⟨_, -, pubkey, -, rfl⟩ := h
  exact hnz pubkey

/-- Under a recovery that returns a non-zero address only for a signer, and never the zero
address, a quorum recovered from signatures over `digest` is a quorum of signers. -/
theorem hasQuorum_signed (hrec : ∀ digest sig a, recoverEthAddress X H digest sig = .ok a → a ≠ zeroAddress → signed a digest)
    (hnz : ∀ pubkey, pubkeyToEthAddress H pubkey ≠ zeroAddress) {attestors' : List Bytes}
    (hsub : ∀ a ∈ attestors, a ∈ attestors') {digest : Bytes} {k : ℕ}
    (h : HasQuorum (· ∈ attestors) (Recovered X H digest) k) : HasQuorum (· ∈ attestors') (signed · digest) k :=
  h.mono (fun a hm _ => hsub a hm) (fun _ _ ⟨sig, hr⟩ => hrec digest sig _ hr (recoverEthAddress_ne_zero hnz hr))

/-- What the program answers in a state, for a recovery model `signed` and the attestor set and
threshold `initialize` was given: every account holds its height and a non-zero timestamp
attested there by a quorum of signers; every membership answer found an account with a timestamp
and a packet attestation for its height signed by such a quorum; the latest height is the largest
of zero and every height with an account; a frozen client changes no more. -/
structure Sound (X : Externals) (H : Hashes) (signed : Bytes → Bytes → Prop) (attestors : List Bytes) (m : UInt8)
    (s : State) : Prop where
  stored : ∀ k store, s.consensusStates k = some store → store.height = k ∧ 0 < store.timestamp ∧
    ∃ data, X.decodeStateAttestation data = some ⟨k, store.timestamp⟩ ∧
      HasQuorum (· ∈ attestors) (signed · (taggedSigningInput H data .State)) m.toNat
  membership : ∀ (msg : MembershipMsg) u, verifyMembership X H s msg = .ok u →
    ∃ store, s.consensusStates msg.height = some store ∧ store.timestamp ≠ 0 ∧
      ∃ data pa, X.decodePacketAttestation data = some pa ∧ pa.height = msg.height ∧
        HasQuorum (· ∈ attestors) (signed · (taggedSigningInput H data .Packet)) m.toNat
  nonMembership : ∀ (msg : NonMembershipMsg) t, verifyNonMembership X H s msg = .ok t →
    ∃ store, s.consensusStates msg.height = some store ∧ store.timestamp = t ∧ t ≠ 0 ∧
      ∃ data pa, X.decodePacketAttestation data = some pa ∧ pa.height = msg.height ∧
        HasQuorum (· ∈ attestors) (signed · (taggedSigningInput H data .Packet)) m.toNat
  latest : ∀ cs, s.clientState = some cs → IsMax (· ≠ none) s.consensusStates 0 cs.latestHeight
  frozen : ∀ cs, s.clientState = some cs → cs.isFrozen = true → ∀ is : List Instruction,
    (exec (step X H) (s, []) is).1.clientState = s.clientState ∧
      (exec (step X H) (s, []) is).1.consensusStates = s.consensusStates

theorem packetAttested_signed (hrec : ∀ digest sig a, recoverEthAddress X H digest sig = .ok a → a ≠ zeroAddress → signed a digest)
    (hnz : ∀ pubkey, pubkeyToEthAddress H pubkey ≠ zeroAddress) {attestors' : List Bytes}
    (hsub : ∀ a ∈ attestors, a ∈ attestors') {cs : ClientState} (hatt : cs.attestorAddresses = attestors)
    (hmin : cs.minRequiredSigs = m) {h : UInt64} {pa : PacketAttestation}
    (hpa : PacketAttested X H cs.attestorAddresses cs.minRequiredSigs h pa) :
    ∃ data, X.decodePacketAttestation data = some pa ∧ pa.height = h ∧
      HasQuorum (· ∈ attestors') (signed · (taggedSigningInput H data .Packet)) m.toNat := by
  obtain ⟨hheight, data, hdec, hq⟩ := hpa
  rw [hatt, hmin] at hq
  exact ⟨data, hdec, hheight, hasQuorum_signed hrec hnz hsub hq⟩

/-- **The program is sound along every run from `initialize`**, for a Keccak-256 that never ends in
twenty zero bytes. -/
theorem run_sound (hrec : ∀ digest sig a, recoverEthAddress X H digest sig = .ok a → a ≠ zeroAddress → signed a digest)
    (hnz : ∀ pubkey, pubkeyToEthAddress H pubkey ≠ zeroAddress) {b : Bool} {am : Ics26Router.Pubkey} {s₀ : State}
    (hinit : initializeClient State.empty b attestors m am = .ok s₀) (is : List Instruction) :
    Sound X H signed attestors m (exec (step X H) (s₀, []) is).1 := by
  have hinv := run_clientInv (initializeClient_clientInv (X := X) (H := H) hinit) [] is
  have hsub : ∀ a ∈ sortedAttestors attestors, a ∈ attestors := fun _ ha => mem_of_mem_sortedAttestors ha
  refine ⟨fun k store hk => ?_, fun msg u hok => ?_, fun msg t hok => ?_, hinv.latest, fun cs hcs hfrozen js => ?_⟩
  · obtain ⟨hheight, hts, data, hdec, hq⟩ := hinv.stores k store hk
    exact ⟨hheight, hts, data, hdec, hasQuorum_signed hrec hnz hsub hq⟩
  · obtain ⟨cs, store, hcs, -, hstore, hts, pa, hpa, -⟩ := verifyMembership_attested hok
    obtain ⟨hatt, hmin⟩ := hinv.config_eq hcs
    obtain ⟨data, hdec, hheight, hq⟩ := packetAttested_signed hrec hnz hsub hatt hmin hpa
    exact ⟨store, hstore, hts, data, pa, hdec, hheight, hq⟩
  · obtain ⟨cs, store, hcs, -, hstore, hts, ht, pa, hpa, -⟩ := verifyNonMembership_attested hok
    obtain ⟨hatt, hmin⟩ := hinv.config_eq hcs
    obtain ⟨data, hdec, hheight, hq⟩ := packetAttested_signed hrec hnz hsub hatt hmin hpa
    exact ⟨store, hstore, hts, ht, data, pa, hdec, hheight, hq⟩
  · exact run_frozen hcs hfrozen [] js

end Signed

/-! ## The membership answers, exactly -/

theorem recordSigner_eq_ok_iff {clientState : ClientState} {digest sig : Bytes} {seen seen' : List Bytes} :
    recordSigner X H clientState digest seen sig = .ok seen' ↔
      ∃ b, recoverEthAddress X H digest sig = .ok b ∧ b ∉ seen ∧ b ∈ clientState.attestorAddresses ∧ seen' = seen ++ [b] := by
  simp only [recordSigner, bind_eq_ok, require_eq_ok, pure_eq_ok]
  constructor
  · rintro ⟨b, hrec, _, hnew, _, hmem, rfl⟩
    exact ⟨b, hrec, hnew, hmem, rfl⟩
  · rintro ⟨b, hrec, hnew, hmem, rfl⟩
    exact ⟨b, hrec, (), hnew, (), hmem, rfl⟩

theorem verifyAttestation_eq_ok_iff {clientState : ClientState} {data : Bytes} {sigs : List Bytes}
    {attestationType : AttestationType} {u : Unit} :
    verifyAttestation X H clientState data sigs attestationType = .ok u ↔
      sigs ≠ [] ∧ clientState.minRequiredSigs.toNat ≤ sigs.length ∧
        ∃ r, sigs.foldlM (recordSigner X H clientState (taggedSigningInput H data attestationType)) [] = .ok r := by
  simp only [verifyAttestation, bind_eq_ok, require_eq_ok, pure_eq_ok]
  constructor
  · rintro ⟨_, hne, _, hlen, r, hr, -⟩
    exact ⟨hne, hlen, r, hr⟩
  · rintro ⟨hne, hlen, r, hr⟩
    exact ⟨(), hne, (), hlen, r, hr, trivial⟩

section Answers

variable {cs : ClientState} {h ts : UInt64} {proof data : Bytes} {sigs : List Bytes} {pa : PacketAttestation}

theorem attestedPackets_eq_ok_iff (hsize : proof.length ≤ maxProofSize)
    (hproof : X.decodeMembershipProof proof = some ⟨data, sigs⟩) (hpa : X.decodePacketAttestation data = some pa)
    (hheight : pa.height = h) {r : PacketAttestation} :
    attestedPackets X H cs ⟨h, ts⟩ proof = .ok r ↔
      verifyAttestation X H cs data sigs .Packet = .ok () ∧ pa.packets ≠ [] ∧ r = pa := by
  simp only [attestedPackets, deserializeMembershipProof, bind_eq_ok, require_eq_ok, expect_eq_ok, pure_eq_ok,
    hproof, Option.some.injEq]
  constructor
  · rintro ⟨_, ⟨_, -, rfl⟩, pa', hpa', _, -, _, hsigs, _, hnonempty, rfl⟩
    simp only [hpa, Option.some.injEq] at hpa'
    subst hpa'
    exact ⟨hsigs, hnonempty, rfl⟩
  · rintro ⟨hsigs, hnonempty, rfl⟩
    exact ⟨_, ⟨(), hsize, rfl⟩, _, hpa, (), hheight, (), hsigs, (), hnonempty, rfl⟩

theorem loadAccounts_eq (hcs : s.clientState = some cs) (hlive : cs.isFrozen = false)
    (hstore : s.consensusStates h = some ⟨h, ts⟩) (hts : ts ≠ 0) : loadAccounts s h = .ok (cs, ⟨h, ts⟩) := by
  simp only [loadAccounts, bind_eq_ok, expect_eq_ok, require_eq_ok, pure_eq_ok]
  exact ⟨cs, hcs, (), hlive, _, hstore, (), hts, rfl⟩

variable (hcs : s.clientState = some cs) (hlive : cs.isFrozen = false) (hstore : s.consensusStates h = some ⟨h, ts⟩)
  (hts : ts ≠ 0) (hpos : 0 < h) (hsize : proof.length ≤ maxProofSize)
  (hproof : X.decodeMembershipProof proof = some ⟨data, sigs⟩) (hpa : X.decodePacketAttestation data = some pa)
  (hheight : pa.height = h)
include hcs hlive hstore hts hpos hsize hproof hpa hheight

theorem verifyMembership_ok_iff {path value : Bytes} (hvalue : value.length = 32) {u : Unit} :
    verifyMembership X H s ⟨h, proof, [path], value⟩ = .ok u ↔
      verifyAttestation X H cs data sigs .Packet = .ok () ∧ pa.packets ≠ [] ∧
        ∃ q, pa.packets.find? (fun q => q.path = H.keccak256 path) = some q ∧ q.commitment ≠ zeroWord ∧
          q.commitment = value := by
  have hne : value ≠ [] := fun h0 => by simp [h0] at hvalue
  simp only [verifyMembership, loadAccounts_eq hcs hlive hstore hts, bind_eq_ok,
    require_eq_ok, expect_eq_ok, Except.ok.injEq]
  constructor
  · rintro ⟨_, rfl, _, -, _, -, _, -, _, -, r, hr, q, hq, _, hnz, _, -, hcommit⟩
    obtain ⟨hsigs, hnonempty, rfl⟩ := (attestedPackets_eq_ok_iff hsize hproof hpa hheight).mp hr
    exact ⟨hsigs, hnonempty, q, hq, hnz, hcommit⟩
  · rintro ⟨hsigs, hnonempty, q, hq, hnz, hcommit⟩
    have hr : attestedPackets X H cs ⟨h, ts⟩ proof = .ok pa :=
      (attestedPackets_eq_ok_iff hsize hproof hpa hheight).mpr ⟨hsigs, hnonempty, rfl⟩
    exact ⟨_, rfl, (), hne, (), by simp, (), hpos, (), rfl, _, hr, q, hq, (), hnz, (), hvalue, hcommit⟩

theorem verifyNonMembership_ok_iff {path : Bytes} {t : UInt64} :
    verifyNonMembership X H s ⟨h, proof, [path]⟩ = .ok t ↔
      verifyAttestation X H cs data sigs .Packet = .ok () ∧ pa.packets ≠ [] ∧
        (∃ q, pa.packets.find? (fun q => q.path = H.keccak256 path) = some q ∧ q.commitment = zeroWord) ∧ t = ts := by
  simp only [verifyNonMembership, loadAccounts_eq hcs hlive hstore hts, bind_eq_ok,
    require_eq_ok, expect_eq_ok, pure_eq_ok, Except.ok.injEq]
  constructor
  · rintro ⟨_, rfl, _, -, _, -, _, -, r, hr, q, hq, _, hzero, rfl⟩
    obtain ⟨hsigs, hnonempty, rfl⟩ := (attestedPackets_eq_ok_iff hsize hproof hpa hheight).mp hr
    exact ⟨hsigs, hnonempty, ⟨q, hq, hzero⟩, rfl⟩
  · rintro ⟨hsigs, hnonempty, ⟨q, hq, hzero⟩, ht⟩
    rw [ht]
    have hr : attestedPackets X H cs ⟨h, ts⟩ proof = .ok pa :=
      (attestedPackets_eq_ok_iff hsize hproof hpa hheight).mpr ⟨hsigs, hnonempty, rfl⟩
    exact ⟨_, rfl, (), by simp, (), hpos, (), rfl, _, hr, q, hq, (), hzero, rfl⟩

end Answers

end Attestation
