/-
# What every run of the SP1 Tendermint client keeps

Three paths write the client's storage: `updateClient` on an `Update` (a new
consensus-state hash, and the latest height if the new one is above it) or a
`Misbehaviour` result (the client freezes), the update-and-membership proof
inside `_membership` on an `Update`, and `misbehaviour`. Everything else reads,
or writes the transient cache only. `Change` says this once; every invariant
below is a case analysis on it.

Both update paths write only where `_checkUpdateResult` found no hash, so a
stored hash never changes (`change_keeps`). Given a non-zero initial hash and a
Keccak-256 that never returns the zero word, the latest height is always the
largest with a hash (`change_isLatest`). No path writes the chain id or the
trust parameters, and a frozen client reverts every call.

Key definitions: `SP1ICS07Tendermint.UpdateProven`, `SP1ICS07Tendermint.Change`,
`SP1ICS07Tendermint.SameTrustParams`.
Key theorems: `SP1ICS07Tendermint.updateClient_change`, `SP1ICS07Tendermint.membership_change`,
`SP1ICS07Tendermint.step_change`, `SP1ICS07Tendermint.change_keeps`,
`SP1ICS07Tendermint.change_isLatest`, `SP1ICS07Tendermint.step_frozen`.
-/
import IbcEureka.Solidity.SP1ICS07Tendermint
import IbcEureka.Lib.HeightMap
import IbcEureka.Solidity.RouterLifecycle

namespace SP1ICS07Tendermint

open Txn HeightMap

open ICS26Router (Height MsgVerifyMembership MsgVerifyNonMembership)

variable {P : ProgramVkeys} {X : Externals} {H : Hashes} {s s' : State}

/-! ## One lemma per function -/

@[simp] theorem notFrozen_eq_ok {u : Unit} : notFrozen s = .ok u ↔ s.clientState.isFrozen = false := by
  simp [notFrozen]

@[simp] theorem onlyProofSubmitter_eq_ok {env : Env} {u : Unit} :
    onlyProofSubmitter env = .ok u ↔ env.isProofSubmitter = true := by
  simp [onlyProofSubmitter]

@[simp] theorem verifySP1Proof_eq_ok {proof : SP1Proof} {u : Unit} :
    verifySP1Proof X proof = .ok u ↔ X.verifyProof proof.vKey proof.publicValues proof.proof = true := by
  simp [verifySP1Proof]

theorem getConsensusStateHash_eq_ok {k : UInt64} {hash : Bytes} :
    getConsensusStateHash s k = .ok hash ↔ s.consensusStateHashes k = hash ∧ hash ≠ zeroWord := by
  simp only [getConsensusStateHash, require_bind_eq_ok, pure_eq_ok]
  constructor
  · rintro ⟨hne, rfl⟩
    exact ⟨rfl, hne⟩
  · rintro ⟨rfl, hne⟩
    exact ⟨hne, rfl⟩

theorem checkTrustedConsensusState_ok {k : UInt64} {cs : ConsensusState} {u : Unit}
    (h : checkTrustedConsensusState H s k cs = .ok u) : s.consensusStateHashes k = hashConsensusState H cs := by
  simp only [checkTrustedConsensusState, bind_eq_ok, getConsensusStateHash_eq_ok, require_eq_ok] at h
  obtain ⟨hash, ⟨hstored, -⟩, heq⟩ := h
  rw [hstored, heq]

theorem validateUpdateClientPublicValues_ok {now : ℕ} {output : UpdateClientOutput} {u : Unit}
    (h : validateUpdateClientPublicValues H s now output = .ok u) :
    s.consensusStateHashes output.trustedHeight.revisionHeight = hashConsensusState H output.trustedConsensusState := by
  simp only [validateUpdateClientPublicValues, bind_eq_ok] at h
  obtain ⟨_, -, hcheck⟩ := h
  exact checkTrustedConsensusState_ok hcheck

theorem checkUpdateResult_eq_update {output : UpdateClientOutput} :
    checkUpdateResult H s output = .Update ↔ s.consensusStateHashes output.newHeight.revisionHeight = zeroWord := by
  by_cases hz : s.consensusStateHashes output.newHeight.revisionHeight = zeroWord
  · simp [checkUpdateResult, hz]
  · simp only [checkUpdateResult, hz, if_false, iff_false]
    split <;> simp

@[simp] theorem cacheIfMany_clientState {proofHeight : UInt64} {kvPairs : List KVPair} {timestamp : ℕ} :
    (cacheIfMany H s proofHeight kvPairs timestamp).clientState = s.clientState := by
  unfold cacheIfMany
  split <;> rfl

@[simp] theorem cacheIfMany_consensusStateHashes {proofHeight : UInt64} {kvPairs : List KVPair} {timestamp : ℕ} :
    (cacheIfMany H s proofHeight kvPairs timestamp).consensusStateHashes = s.consensusStateHashes := by
  unfold cacheIfMany
  split <;> rfl

theorem ConsensusState.encode_eq (cs : ConsensusState) :
    cs.encode = Bytes.be 32 cs.timestamp.toNat ++
      (Bytes.be 32 (Bytes.beNat cs.root) ++ Bytes.be 32 (Bytes.beNat cs.nextValidatorsHash)) := by
  simp [ConsensusState.encode, Abi.encode, Abi.Value.enc, Abi.encTuple, Abi.Value.isDynamic]

theorem ConsensusState.timestamp_eq_of_encode_eq {a b : ConsensusState} (h : a.encode = b.encode) :
    a.timestamp = b.timestamp := by
  rw [ConsensusState.encode_eq, ConsensusState.encode_eq] at h
  have hfirst : Bytes.be 32 a.timestamp.toNat = Bytes.be 32 b.timestamp.toNat := (List.append_inj h (by simp)).1
  have hbound : ∀ t : BitVec 128, t.toNat < 256 ^ 32 := fun t => lt_of_lt_of_le t.isLt (by decide : 2 ^ 128 ≤ 256 ^ 32)
  exact BitVec.eq_of_toNat_eq (Bytes.be_inj_of_lt hfirst (hbound _) (hbound _))

theorem addConsensusState_latest (height : Height) (cs : ConsensusState) :
    (addConsensusState H s height cs).clientState.latestHeight.revisionHeight =
      if s.clientState.latestHeight.revisionHeight < height.revisionHeight then height.revisionHeight
      else s.clientState.latestHeight.revisionHeight := by
  simp only [addConsensusState_clientState]
  split <;> rfl

theorem addConsensusState_hashes (height : Height) (cs : ConsensusState) :
    (addConsensusState H s height cs).consensusStateHashes =
      Function.update s.consensusStateHashes height.revisionHeight (hashConsensusState H cs) := rfl

theorem timestamp_eq_of_hash_eq (hinj : Function.Injective H.keccak256) {a b : ConsensusState}
    (h : hashConsensusState H a = hashConsensusState H b) : a.timestamp = b.timestamp :=
  ConsensusState.timestamp_eq_of_encode_eq (hinj h)

theorem height_ext {a b : Height} (hh : a.revisionHeight = b.revisionHeight) (hn : a.revisionNumber = b.revisionNumber) :
    a = b := by
  cases a
  cases b
  simp_all

/-! ## What a call can do -/

/-- `output` is the public values of a proof the verifier accepts, from one of the two update
programs. -/
def UpdateProven (P : ProgramVkeys) (X : Externals) (output : UpdateClientOutput) : Prop :=
  ∃ p : SP1Proof, X.verifyProof p.vKey p.publicValues p.proof = true ∧
    ((p.vKey = P.updateClientProgramVkey ∧ X.decodeUpdateClientOutput p.publicValues = some output) ∨
      (p.vKey = P.updateClientAndMembershipProgramVkey ∧
        ∃ kvPairs, X.decodeUcAndMembershipOutput p.publicValues = some ⟨output, kvPairs⟩))

/-- What a successful input does to the client state and the stored hashes. -/
inductive Change (P : ProgramVkeys) (X : Externals) (H : Hashes) (s s' : State) : Prop
  /-- Neither changes. -/
  | quiet : s'.clientState = s.clientState → s'.consensusStateHashes = s.consensusStateHashes → Change P X H s s'
  /-- A live client freezes. -/
  | freeze : s.clientState.isFrozen = false → s'.clientState = s.freeze.clientState →
      s'.consensusStateHashes = s.consensusStateHashes → Change P X H s s'
  /-- A proven update of a live client, against a stored consensus state, adds the new one at a
  height with no hash. -/
  | add (output : UpdateClientOutput) : s.clientState.isFrozen = false → UpdateProven P X output →
      s.consensusStateHashes output.trustedHeight.revisionHeight = hashConsensusState H output.trustedConsensusState →
      s.consensusStateHashes output.newHeight.revisionHeight = zeroWord →
      s'.clientState = (addConsensusState H s output.newHeight output.newConsensusState).clientState →
      s'.consensusStateHashes = (addConsensusState H s output.newHeight output.newConsensusState).consensusStateHashes →
      Change P X H s s'

theorem updateClient_change {env : Env} {msgUpdateClient : MsgUpdateClient} {result : UpdateResult}
    (h : updateClient P X H s env msgUpdateClient = .ok (s', result)) : Change P X H s s' := by
  simp only [updateClient, bind_eq_ok, notFrozen_eq_ok, onlyProofSubmitter_eq_ok, require_eq_ok, expect_eq_ok] at h
  obtain ⟨_, hlive, _, -, _, hvk, output, hdec, _, hvalid, hresult⟩ := h
  have htrusted := validateUpdateClientPublicValues_ok hvalid
  cases hcheck : checkUpdateResult H s output with
  | Update =>
    rw [hcheck] at hresult
    simp only [bind_eq_ok, verifySP1Proof_eq_ok, pure_eq_ok, Prod.mk.injEq] at hresult
    obtain ⟨_, hverify, rfl, -⟩ := hresult
    exact .add output hlive ⟨msgUpdateClient.sp1Proof, hverify, .inl ⟨hvk, hdec⟩⟩ htrusted
      (checkUpdateResult_eq_update.mp hcheck) rfl rfl
  | Misbehaviour =>
    rw [hcheck] at hresult
    simp only [bind_eq_ok, pure_eq_ok, Prod.mk.injEq] at hresult
    obtain ⟨_, -, rfl, -⟩ := hresult
    exact .freeze hlive rfl rfl
  | NoOp =>
    rw [hcheck] at hresult
    simp only [pure_eq_ok, Prod.mk.injEq] at hresult
    obtain ⟨rfl, -⟩ := hresult
    exact .quiet rfl rfl

theorem handleSP1MembershipProof_quiet {proofHeight : Height} {proofBytes : Bytes} {kvPath : List Bytes}
    {kvValue : Bytes} {t : ℕ} (h : handleSP1MembershipProof P X H s proofHeight proofBytes kvPath kvValue = .ok (s', t)) :
    Change P X H s s' := by
  simp only [handleSP1MembershipProof, bind_eq_ok, pure_eq_ok, Prod.mk.injEq] at h
  obtain ⟨_, -, _, -, _, -, _, -, _, -, _, -, _, -, rfl, -⟩ := h
  exact .quiet cacheIfMany_clientState cacheIfMany_consensusStateHashes

theorem updateForMembership_ok {proofHeight : Height} {output : UpdateClientOutput} {s₁ : State}
    (h : updateForMembership H s proofHeight output = .ok s₁) :
    (checkUpdateResult H s output = .Update ∧ s₁ = addConsensusState H s proofHeight output.newConsensusState) ∨
      s₁ = s := by
  unfold updateForMembership at h
  cases hcheck : checkUpdateResult H s output <;> rw [hcheck] at h
  · exact .inl ⟨rfl, (pure_eq_ok.mp h).symm⟩
  · cases h
  · exact .inr (pure_eq_ok.mp h).symm

theorem handleSP1UpdateClientAndMembership_change {now : ℕ} {proofHeight : Height} {proofBytes : Bytes}
    {kvPath : List Bytes} {kvValue : Bytes} {t : ℕ} (hlive : s.clientState.isFrozen = false)
    (h : handleSP1UpdateClientAndMembership P X H s now proofHeight proofBytes kvPath kvValue = .ok (s', t)) :
    Change P X H s s' := by
  simp only [handleSP1UpdateClientAndMembership, bind_eq_ok, require_eq_ok, expect_eq_ok, verifySP1Proof_eq_ok,
    pure_eq_ok, Prod.mk.injEq] at h
  obtain ⟨proof, -, _, hvk, output, hdec, _, -, _, ⟨hrh, hrn⟩, _, hvalid, _, hverify, s₁, hupdate, _, -, _, -, rfl, -⟩ := h
  have hheight : proofHeight = output.updateClientOutput.newHeight := height_ext hrh hrn
  rcases updateForMembership_ok hupdate with ⟨hcheck, rfl⟩ | rfl
  · rw [hheight]
    exact .add output.updateClientOutput hlive ⟨proof.sp1Proof, hverify, .inr ⟨hvk, output.kvPairs, hdec⟩⟩
      (validateUpdateClientPublicValues_ok hvalid) (checkUpdateResult_eq_update.mp hcheck) cacheIfMany_clientState
      cacheIfMany_consensusStateHashes
  · exact .quiet cacheIfMany_clientState cacheIfMany_consensusStateHashes

theorem membership_change {now : ℕ} {proof : Bytes} {proofHeight : Height} {path : List Bytes} {value : Bytes}
    {t : ℕ} (hlive : s.clientState.isFrozen = false)
    (h : membership P X H s now proof proofHeight path value = .ok (s', t)) : Change P X H s s' := by
  unfold membership at h
  split at h
  · -- a cached pair: nothing is written
    simp only [bind_eq_ok, pure_eq_ok, Prod.mk.injEq] at h
    obtain ⟨_, -, rfl, -⟩ := h
    exact .quiet rfl rfl
  · simp only [bind_eq_ok, expect_eq_ok] at h
    obtain ⟨membershipProof, -, hhandle⟩ := h
    split at hhandle
    · exact handleSP1MembershipProof_quiet hhandle
    · exact handleSP1UpdateClientAndMembership_change hlive hhandle

theorem verifyMembership_change {env : Env} {msg : MsgVerifyMembership} {t : ℕ}
    (h : verifyMembership P X H s env msg = .ok (s', t)) : Change P X H s s' := by
  simp only [verifyMembership, bind_eq_ok, notFrozen_eq_ok] at h
  obtain ⟨_, hlive, _, -, _, -, hmembership⟩ := h
  exact membership_change hlive hmembership

theorem verifyNonMembership_change {env : Env} {msg : MsgVerifyNonMembership} {t : ℕ}
    (h : verifyNonMembership P X H s env msg = .ok (s', t)) : Change P X H s s' := by
  simp only [verifyNonMembership, bind_eq_ok, notFrozen_eq_ok] at h
  obtain ⟨_, hlive, _, -, hmembership⟩ := h
  exact membership_change hlive hmembership

theorem misbehaviour_change {env : Env} {msgSubmitMisbehaviour : MsgSubmitMisbehaviour}
    (h : misbehaviour P X H s env msgSubmitMisbehaviour = .ok s') : Change P X H s s' := by
  simp only [misbehaviour, bind_eq_ok, notFrozen_eq_ok, pure_eq_ok] at h
  obtain ⟨_, hlive, _, -, _, -, _, -, _, -, _, -, rfl⟩ := h
  exact .freeze hlive rfl rfl

/-- **Every input is one of the three changes.** -/
theorem step_change {i : Input} {out : List Output} (h : step P X H s i = .ok (s', out)) : Change P X H s s' := by
  cases i with
  | endTransaction =>
    simp only [step, pure_eq_ok, Prod.mk.injEq] at h
    obtain ⟨rfl, -⟩ := h
    exact .quiet rfl rfl
  | call env c =>
    cases c with
    | updateClient msgUpdateClient =>
      simp only [step, bind_eq_ok, pure_eq_ok, Prod.mk.injEq] at h
      obtain ⟨_, hcall, rfl, -⟩ := h
      exact updateClient_change hcall
    | verifyMembership msg =>
      simp only [step, bind_eq_ok, pure_eq_ok, Prod.mk.injEq] at h
      obtain ⟨_, hcall, rfl, -⟩ := h
      exact verifyMembership_change hcall
    | verifyNonMembership msg =>
      simp only [step, bind_eq_ok, pure_eq_ok, Prod.mk.injEq] at h
      obtain ⟨_, hcall, rfl, -⟩ := h
      exact verifyNonMembership_change hcall
    | misbehaviour msgSubmitMisbehaviour =>
      simp only [step, bind_eq_ok, pure_eq_ok, Prod.mk.injEq] at h
      obtain ⟨_, hcall, rfl, -⟩ := h
      exact misbehaviour_change hcall

/-- A frozen client reverts every call. -/
theorem step_frozen (hfrozen : s.clientState.isFrozen = true) (env : Env) (c : Call) :
    step P X H s (.call env c) = .error .FrozenClientState := by
  have hnot : notFrozen s = .error .FrozenClientState := by
    simp [notFrozen, require, hfrozen]
  cases c <;> simp [step, updateClient, verifyMembership, verifyNonMembership, misbehaviour, hnot, bind, Except.bind]

/-! ## Stored hashes never change; the latest height is the largest stored -/

theorem change_keeps (hc : Change P X H s s') :
    Keeps (· ≠ zeroWord) s.consensusStateHashes s'.consensusStateHashes := by
  cases hc with
  | quiet _ hhashes =>
    rw [hhashes]
    exact Keeps.refl _
  | freeze _ _ hhashes =>
    rw [hhashes]
    exact Keeps.refl _
  | add output _ _ _ hempty _ hhashes =>
    rw [hhashes]
    exact keeps_update (· ≠ zeroWord) (not_not.mpr hempty) _

/-- Given a Keccak-256 that never returns the zero word, every change keeps the latest height the
largest with a hash. -/
theorem change_isLatest (hnz : ∀ b, H.keccak256 b ≠ zeroWord) (hc : Change P X H s s')
    (hl : IsLatest (· ≠ zeroWord) s.consensusStateHashes s.clientState.latestHeight.revisionHeight) :
    IsLatest (· ≠ zeroWord) s'.consensusStateHashes s'.clientState.latestHeight.revisionHeight := by
  cases hc with
  | quiet hcs hhashes =>
    rw [hcs, hhashes]
    exact hl
  | freeze _ hcs hhashes =>
    rw [hcs, hhashes]
    exact hl
  | add output _ _ _ _ hcs hhashes =>
    rw [hcs, hhashes, addConsensusState_latest]
    by_cases habove : s.clientState.latestHeight.revisionHeight < output.newHeight.revisionHeight
    · rw [if_pos habove]
      exact hl.update (hnz _) (UInt64.le_of_lt habove) (UInt64.le_refl _) (.inr rfl)
    · rw [if_neg habove]
      exact hl.update (hnz _) (UInt64.le_refl _) (UInt64.not_lt.mp habove) (.inl rfl)

/-- The chain id, the trust level and the two periods every proof's client state must match, and
the proof system. -/
def ClientState.trustParams (cs : ClientState) : Bytes × TrustThreshold × UInt32 × UInt32 × SupportedZkAlgorithm :=
  (cs.chainId, cs.trustLevel, cs.trustingPeriod, cs.unbondingPeriod, cs.zkAlgorithm)

theorem change_trustParams (hc : Change P X H s s') : s'.clientState.trustParams = s.clientState.trustParams := by
  cases hc with
  | quiet hcs _ => rw [hcs]
  | freeze _ hcs _ =>
    rw [hcs]
    rfl
  | add output _ _ _ _ hcs _ =>
    rw [hcs, addConsensusState_clientState]
    split <;> rfl

/-- A frozen client's state changes in nothing but its transient storage. -/
theorem change_of_frozen (hfrozen : s.clientState.isFrozen = true) (hc : Change P X H s s') :
    s'.clientState = s.clientState ∧ s'.consensusStateHashes = s.consensusStateHashes := by
  cases hc with
  | quiet hcs hhashes => exact ⟨hcs, hhashes⟩
  | freeze hlive _ _ =>
    rw [hfrozen] at hlive
    cases hlive
  | add output hlive _ _ _ _ _ =>
    rw [hfrozen] at hlive
    cases hlive

/-! ## Runs from the constructor -/

theorem constructor_eq {clientState : ClientState} {consensusState : Bytes}
    (hperiods : clientState.trustingPeriod.toNat + allowedSp1ClockDrift ≤ clientState.unbondingPeriod.toNat) :
    constructor clientState consensusState =
      .ok ⟨clientState, Function.update (fun _ => zeroWord) clientState.latestHeight.revisionHeight consensusState,
        fun _ => 0⟩ := by
  have hfits : clientState.trustingPeriod.toNat + allowedSp1ClockDrift < 2 ^ 32 :=
    lt_of_le_of_lt hperiods clientState.unbondingPeriod.toNat_lt
  simp only [constructor, require_bind_eq_ok, pure_eq_ok]
  exact ⟨hfits, hperiods, trivial⟩

theorem constructor_ok {clientState : ClientState} {consensusState : Bytes} {s₀ : State}
    (h : constructor clientState consensusState = .ok s₀) :
    s₀.clientState = clientState ∧
      s₀.consensusStateHashes = Function.update (fun _ => zeroWord) clientState.latestHeight.revisionHeight consensusState := by
  simp only [constructor, require_bind_eq_ok, pure_eq_ok] at h
  obtain ⟨-, -, rfl⟩ := h
  exact ⟨rfl, rfl⟩

/-- With a non-zero initial hash, the constructor's latest height is the one height with a hash. -/
theorem constructor_isLatest {clientState : ClientState} {consensusState : Bytes} {s₀ : State}
    (h : constructor clientState consensusState = .ok s₀) (hcs : consensusState ≠ zeroWord) :
    IsLatest (· ≠ zeroWord) s₀.consensusStateHashes s₀.clientState.latestHeight.revisionHeight := by
  obtain ⟨hclient, hhashes⟩ := constructor_ok h
  rw [hclient, hhashes]
  constructor
  · rw [Function.update_self]
    exact hcs
  · intro k hk
    by_cases hkl : k = clientState.latestHeight.revisionHeight
    · rw [hkl]
      exact UInt64.le_refl _
    · rw [Function.update_of_ne hkl] at hk
      exact absurd rfl hk

theorem run_keeps (s : State) (log : List Output) (js : List Input) :
    Keeps (· ≠ zeroWord) s.consensusStateHashes (exec (step P X H) (s, log) js).1.consensusStateHashes :=
  exec_rel (step P X H) (fun _ _ => True) (fun a b => Keeps (· ≠ zeroWord) a.consensusStateHashes b.consensusStateHashes)
    (fun _ _ _ _ _ _ _ => trivial) (fun _ => Keeps.refl _) (fun _ _ _ hab hbc => hab.trans hbc)
    (fun _ _ _ _ _ _ hok => change_keeps (step_change hok)) js (s, log) trivial

theorem run_trustParams (s : State) (log : List Output) (js : List Input) :
    (exec (step P X H) (s, log) js).1.clientState.trustParams = s.clientState.trustParams :=
  exec_rel (step P X H) (fun _ _ => True) (fun a b => b.clientState.trustParams = a.clientState.trustParams)
    (fun _ _ _ _ _ _ _ => trivial) (fun _ => rfl) (fun _ _ _ hab hbc => hbc.trans hab)
    (fun _ _ _ _ _ _ hok => change_trustParams (step_change hok)) js (s, log) trivial

theorem run_isLatest (hnz : ∀ b, H.keccak256 b ≠ zeroWord) {clientState : ClientState} {consensusState : Bytes}
    {s₀ : State} (hinit : constructor clientState consensusState = .ok s₀) (hcs : consensusState ≠ zeroWord)
    (is : List Input) :
    IsLatest (· ≠ zeroWord) (exec (step P X H) (s₀, []) is).1.consensusStateHashes
      (exec (step P X H) (s₀, []) is).1.clientState.latestHeight.revisionHeight :=
  exec_induction (step P X H)
    (fun s _ => IsLatest (· ≠ zeroWord) s.consensusStateHashes s.clientState.latestHeight.revisionHeight)
    (fun _ _ _ _ _ hl hok => change_isLatest hnz (step_change hok) hl) is (s₀, []) (constructor_isLatest hinit hcs)

/-- A frozen client's state changes, along any run, in nothing but its transient storage. -/
theorem run_frozen (hfrozen : s.clientState.isFrozen = true) (log : List Output) (js : List Input) :
    (exec (step P X H) (s, log) js).1.clientState = s.clientState ∧
      (exec (step P X H) (s, log) js).1.consensusStateHashes = s.consensusStateHashes :=
  exec_rel (step P X H) (fun a _ => a.clientState = s.clientState)
    (fun a b => b.clientState = a.clientState ∧ b.consensusStateHashes = a.consensusStateHashes)
    (fun _ _ _ _ _ ha hok => ((change_of_frozen (ha ▸ hfrozen) (step_change hok)).1).trans ha)
    (fun _ => ⟨rfl, rfl⟩) (fun _ _ _ hab hbc => ⟨hbc.1.trans hab.1, hbc.2.trans hab.2⟩)
    (fun _ _ _ _ _ ha hok => change_of_frozen (ha ▸ hfrozen) (step_change hok)) js (s, log) rfl

/-- From a state without any hash, no input stores one: every update needs a trusted hash. -/
theorem change_no_hash (hnz : ∀ b, H.keccak256 b ≠ zeroWord) (hnone : ∀ k, s.consensusStateHashes k = zeroWord)
    (hc : Change P X H s s') : ∀ k, s'.consensusStateHashes k = zeroWord := by
  cases hc with
  | quiet _ hhashes =>
    rw [hhashes]
    exact hnone
  | freeze _ _ hhashes =>
    rw [hhashes]
    exact hnone
  | add output _ _ htrusted _ _ _ =>
    rw [hnone] at htrusted
    exact absurd htrusted.symm (hnz _)

/-- A client without any hash stays without one, along every run. -/
theorem run_no_hash (hnz : ∀ b, H.keccak256 b ≠ zeroWord) (hnone : ∀ k, s.consensusStateHashes k = zeroWord)
    (log : List Output) (js : List Input) : ∀ k, (exec (step P X H) (s, log) js).1.consensusStateHashes k = zeroWord :=
  exec_induction (step P X H) (fun s _ => ∀ k, s.consensusStateHashes k = zeroWord)
    (fun _ _ _ _ _ hnone hok => change_no_hash hnz hnone (step_change hok)) js (s, log) hnone

/-! ## A sample deployment -/

/-- A client state for concrete runs: chain id `[1]`, trust level 1/3, latest height 10, a trusting
period of 100 s and an unbonding period of 2000 s. -/
def sampleClientState : ClientState := ⟨[1], ⟨1, 3⟩, ⟨0, 10⟩, 100, 2000, false, .Groth16⟩

/-- One-byte verification keys, one per program. -/
def sampleVkeys : ProgramVkeys := ⟨[1], [2], [3], [4]⟩

/-- A consensus state at the given time, with zero words for its root and validator hash. -/
def sampleConsensusState (timestamp : BitVec 128) : ConsensusState := ⟨timestamp, zeroWord, zeroWord⟩

/-- Public values of the update program for the sample client, proven at 1000 s: from the
consensus state at `trustedTime`, stored at `trustedHeight`, to one at `newTime` at `newHeight`. -/
def sampleUpdate (trustedHeight newHeight : UInt64) (trustedTime newTime : BitVec 128) : UpdateClientOutput :=
  ⟨sampleClientState, sampleConsensusState trustedTime, sampleConsensusState newTime, 1000000000000,
    ⟨0, trustedHeight⟩, ⟨0, newHeight⟩⟩

/-- Public values `[i]` are the `i`-th entry of a table of updates. -/
def tableDecode (updates : List UpdateClientOutput) : Bytes → Option UpdateClientOutput
  | [i] => updates[i.toNat]?
  | _ => none

/-- Externals for concrete runs: the update program's public values come from a table, and the
verifier accepts an update exactly when it lies above its trusted height and time; no other
payload decodes. -/
def tableExternals (updates : List UpdateClientOutput) : Externals where
  verifyProof _ publicValues _ :=
    match tableDecode updates publicValues with
    | some o => decide (o.trustedHeight.revisionHeight < o.newHeight.revisionHeight ∧
        o.trustedConsensusState.timestamp < o.newConsensusState.timestamp)
    | none => false
  decodeUpdateClientOutput := tableDecode updates
  decodeMembershipProof _ := none
  decodeSP1MembershipProof _ := none
  decodeSP1MembershipAndUpdateClientProof _ := none
  decodeMembershipOutput _ := none
  decodeUcAndMembershipOutput _ := none
  decodeMisbehaviourOutput _ := none

/-- The sample client deployed with the hash of a consensus state at time 100. -/
def sampleDeployment : State :=
  ⟨sampleClientState,
    Function.update (fun _ => zeroWord) 10 (hashConsensusState ICS26Router.consHashes (sampleConsensusState 100)),
    fun _ => 0⟩

/-- Two updates, both against height 10 at time 100: to height 20 at time 200, then to height 30
at time 150. -/
def outOfOrderUpdates : List UpdateClientOutput := [sampleUpdate 10 20 100 200, sampleUpdate 10 30 100 150]

/-- The two updates, submitted at 1000 s under the update program's key. -/
def outOfOrderCalls : List Input :=
  [.call ⟨1000, true⟩ (.updateClient ⟨⟨[1], [0], []⟩⟩), .call ⟨1000, true⟩ (.updateClient ⟨⟨[1], [1], []⟩⟩)]

/-- The run of the two updates from the sample deployment. -/
def outOfOrderRun : State × List Output :=
  exec (step sampleVkeys (tableExternals outOfOrderUpdates) ICS26Router.consHashes) (sampleDeployment, [])
    outOfOrderCalls

/-! ## The store invariants -/

/-- **The store invariants.** Along every run from the constructor: a stored hash never changes
in any later run; given a non-zero initial hash and a Keccak-256 that never returns the zero word,
the latest height is the largest height with a hash; the chain id and the trust parameters stay the
constructor's; and once the client is frozen, every call reverts and the storage stays as it is. -/
theorem sp1_store_invariants (hnz : ∀ b, H.keccak256 b ≠ zeroWord) {clientState : ClientState}
    {consensusState : Bytes} {s₀ : State} (hinit : constructor clientState consensusState = .ok s₀)
    (hcs : consensusState ≠ zeroWord) (is js : List Input) :
    Keeps (· ≠ zeroWord) (exec (step P X H) (s₀, []) is).1.consensusStateHashes
        (exec (step P X H) (s₀, []) (is ++ js)).1.consensusStateHashes ∧
      IsLatest (· ≠ zeroWord) (exec (step P X H) (s₀, []) is).1.consensusStateHashes
        (exec (step P X H) (s₀, []) is).1.clientState.latestHeight.revisionHeight ∧
      (exec (step P X H) (s₀, []) is).1.clientState.trustParams = clientState.trustParams ∧
      ((exec (step P X H) (s₀, []) is).1.clientState.isFrozen = true →
        (∀ env c, step P X H (exec (step P X H) (s₀, []) is).1 (.call env c) = .error .FrozenClientState) ∧
          (exec (step P X H) (s₀, []) (is ++ js)).1.clientState = (exec (step P X H) (s₀, []) is).1.clientState ∧
          (exec (step P X H) (s₀, []) (is ++ js)).1.consensusStateHashes =
            (exec (step P X H) (s₀, []) is).1.consensusStateHashes) := by
  rw [exec_append]
  have hparams := run_trustParams (P := P) (X := X) (H := H) s₀ [] is
  rw [(constructor_ok hinit).1] at hparams
  exact ⟨run_keeps _ _ js, run_isLatest hnz hinit hcs is, hparams,
    fun hfrozen => ⟨step_frozen hfrozen, run_frozen hfrozen _ js⟩⟩

theorem sp1_store_invariants_sample :
    Keeps (· ≠ zeroWord) outOfOrderRun.1.consensusStateHashes (exec (step sampleVkeys
        (tableExternals outOfOrderUpdates) ICS26Router.consHashes) (sampleDeployment, []) (outOfOrderCalls ++ [])).1.consensusStateHashes ∧
      IsLatest (· ≠ zeroWord) outOfOrderRun.1.consensusStateHashes
        outOfOrderRun.1.clientState.latestHeight.revisionHeight ∧
      outOfOrderRun.1.clientState.trustParams = sampleClientState.trustParams ∧
      (outOfOrderRun.1.clientState.isFrozen = true →
        (∀ env c, step sampleVkeys (tableExternals outOfOrderUpdates) ICS26Router.consHashes outOfOrderRun.1
          (.call env c) = .error .FrozenClientState) ∧
          (exec (step sampleVkeys (tableExternals outOfOrderUpdates) ICS26Router.consHashes) (sampleDeployment, [])
            (outOfOrderCalls ++ [])).1.clientState = outOfOrderRun.1.clientState ∧
          (exec (step sampleVkeys (tableExternals outOfOrderUpdates) ICS26Router.consHashes) (sampleDeployment, [])
            (outOfOrderCalls ++ [])).1.consensusStateHashes = outOfOrderRun.1.consensusStateHashes) :=
  sp1_store_invariants ICS26Router.consHashes_keccak256_ne_zeroWord (constructor_eq (by decide))
    (ICS26Router.consHashes_keccak256_ne_zeroWord _) outOfOrderCalls []

/-- **A zero initial hash bricks the client.** Deployed with the zero word as its consensus state,
the contract holds no hash after any run: its latest height is never the largest height with a
hash. -/
theorem zero_initial_hash_never_latest (P : ProgramVkeys) (X : Externals) (is : List Input) :
    ∃ s₀, constructor sampleClientState zeroWord = .ok s₀ ∧
      ¬IsLatest (· ≠ zeroWord) (exec (step P X ICS26Router.consHashes) (s₀, []) is).1.consensusStateHashes
        (exec (step P X ICS26Router.consHashes) (s₀, []) is).1.clientState.latestHeight.revisionHeight := by
  refine ⟨_, constructor_eq (by decide), fun hl => hl.stored_latest ?_⟩
  refine run_no_hash ICS26Router.consHashes_keccak256_ne_zeroWord ?_ [] is _
  intro k
  simp [Function.update_apply]

/-- Deployed with the zero word, the sample client holds no hash at its latest height after the
two sample updates. -/
theorem zero_initial_hash_no_latest :
    ∃ s₀, constructor sampleClientState zeroWord = .ok s₀ ∧
      ¬IsLatest (· ≠ zeroWord)
        (exec (step sampleVkeys (tableExternals outOfOrderUpdates) ICS26Router.consHashes) (s₀, [])
          outOfOrderCalls).1.consensusStateHashes
        (exec (step sampleVkeys (tableExternals outOfOrderUpdates) ICS26Router.consHashes) (s₀, [])
          outOfOrderCalls).1.clientState.latestHeight.revisionHeight :=
  zero_initial_hash_never_latest sampleVkeys (tableExternals outOfOrderUpdates) outOfOrderCalls

/-! ## Times along the trust chain -/

/-- What the two update programs are assumed to prove of their public values: the new height and
the new time lie above the trusted ones. -/
def ProvesAboveTrusted (P : ProgramVkeys) (X : Externals) : Prop :=
  ∀ output, UpdateProven P X output →
    output.trustedHeight.revisionHeight < output.newHeight.revisionHeight ∧
      output.trustedConsensusState.timestamp < output.newConsensusState.timestamp

theorem tableExternals_provesAboveTrusted (P : ProgramVkeys) (updates : List UpdateClientOutput) :
    ProvesAboveTrusted P (tableExternals updates) := by
  rintro output ⟨p, hverify, ⟨-, hdecode⟩ | ⟨-, kvPairs, hdecode⟩⟩
  · simp only [tableExternals] at hverify hdecode
    rw [hdecode] at hverify
    exact of_decide_eq_true hverify
  · simp [tableExternals] at hdecode

/-- `cs` is the consensus state whose hash is stored at `k`. -/
def StoredAt (H : Hashes) (s : State) (k : UInt64) (cs : ConsensusState) : Prop :=
  s.consensusStateHashes k = hashConsensusState H cs

/-- Under an injective Keccak-256 that never returns the zero word, and update programs that
prove times above the trusted ones, every change keeps each stored consensus state, except at the
root, backed by one at a lower height with an earlier time. -/
theorem change_chained (hinj : Function.Injective H.keccak256) (hnz : ∀ b, H.keccak256 b ≠ zeroWord)
    (hX : ProvesAboveTrusted P X) (hc : Change P X H s s') {root : UInt64}
    (hchain : Chained (StoredAt H s) ConsensusState.timestamp root) :
    Chained (StoredAt H s') ConsensusState.timestamp root := by
  cases hc with
  | quiet _ hhashes =>
    unfold StoredAt
    rw [hhashes]
    exact hchain
  | freeze _ _ hhashes =>
    unfold StoredAt
    rw [hhashes]
    exact hchain
  | add output _ hproven htrusted hempty _ hhashes =>
    obtain ⟨hheight, htime⟩ := hX output hproven
    refine hchain.extend ?_ ?_ ⟨_, _, hheight, htrusted, htime⟩
    · -- an old hash is not at the new height, where none was stored
      intro k cs hk
      have hne : k ≠ output.newHeight.revisionHeight := by
        rintro rfl
        exact hnz _ (hk.symm.trans hempty)
      unfold StoredAt
      rw [hhashes, addConsensusState_hashes, Function.update_of_ne hne]
      exact hk
    · intro k cs hk
      unfold StoredAt at hk
      rw [hhashes, addConsensusState_hashes] at hk
      by_cases hkn : k = output.newHeight.revisionHeight
      · rw [hkn, Function.update_self] at hk
        exact .inr ⟨hkn, (timestamp_eq_of_hash_eq hinj hk).symm⟩
      · rw [Function.update_of_ne hkn] at hk
        exact .inl hk

/-- The constructor stores one hash, at the root. -/
theorem constructor_chained (hnz : ∀ b, H.keccak256 b ≠ zeroWord) {clientState : ClientState}
    {consensusState : Bytes} {s₀ : State} (hinit : constructor clientState consensusState = .ok s₀) :
    Chained (StoredAt H s₀) ConsensusState.timestamp clientState.latestHeight.revisionHeight := by
  intro k cs hk
  left
  by_contra hkl
  unfold StoredAt at hk
  rw [(constructor_ok hinit).2, Function.update_of_ne hkl] at hk
  exact hnz _ hk.symm

/-- **The trust chain.** Along every run from the constructor, every stored consensus state but the
constructor's is backed by one stored at a lower height with an earlier time. -/
theorem run_chained (hinj : Function.Injective H.keccak256) (hnz : ∀ b, H.keccak256 b ≠ zeroWord)
    (hX : ProvesAboveTrusted P X) {clientState : ClientState} {consensusState : Bytes} {s₀ : State}
    (hinit : constructor clientState consensusState = .ok s₀) (is : List Input) :
    Chained (StoredAt H (exec (step P X H) (s₀, []) is).1) ConsensusState.timestamp
      clientState.latestHeight.revisionHeight :=
  exec_induction (step P X H)
    (fun s _ => Chained (StoredAt H s) ConsensusState.timestamp clientState.latestHeight.revisionHeight)
    (fun _ _ _ _ _ hchain hok => change_chained hinj hnz hX (step_change hok) hchain) is (s₀, [])
    (constructor_chained hnz hinit)

/-- **Times out of order.** From the sample deployment both updates succeed, and the live client
then stores the consensus state at time 200 at height 20, and the one at time 150 at height 30. -/
theorem sp1_times_out_of_order :
    ProvesAboveTrusted sampleVkeys (tableExternals outOfOrderUpdates) ∧
      constructor sampleClientState (hashConsensusState ICS26Router.consHashes (sampleConsensusState 100)) =
        .ok sampleDeployment ∧
      outOfOrderRun.2 = [.updateResult .Update, .updateResult .Update] ∧
      outOfOrderRun.1.clientState.isFrozen = false ∧
      StoredAt ICS26Router.consHashes outOfOrderRun.1 20 (sampleConsensusState 200) ∧
      StoredAt ICS26Router.consHashes outOfOrderRun.1 30 (sampleConsensusState 150) := by
  refine ⟨tableExternals_provesAboveTrusted _ _, constructor_eq (by decide), by decide, by decide, ?_, ?_⟩ <;>
    unfold StoredAt <;> decide

end SP1ICS07Tendermint
