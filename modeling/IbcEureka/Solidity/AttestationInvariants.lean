/-
# What the attestation light client on Ethereum keeps

A call of `AttestationLightClient` reverts, returns without a write, freezes a
live client, or stores the timestamp of a state attestation at a height that
had none (`Change`, `step_change`). What it stores rests on what the signature
check established (`verifySignaturesThreshold_quorum`): the attestation data
decodes to that height and timestamp, and at least `minRequiredSigs` distinct
attestors are recovered from signatures over its digest (`StateAttested`).

So along every run from the constructor: every stored timestamp but the
constructor's is so attested (`run_backed`), none ever changes (`run_keeps`),
the latest height is the largest of the initial height and every height with a
timestamp (`run_isMax`), the attestor configuration never changes
(`run_attestorConfig`), and a frozen client refuses every call (`step_frozen`).
A membership answer rests on a packet attestation for its height in the same
way (`verifyMembership_attested`, `verifyNonMembership_attested`).

Key definitions: `AttestationLightClient.Recovered`, `AttestationLightClient.StateAttested`,
`AttestationLightClient.PacketAttested`, `AttestationLightClient.Backed`, `AttestationLightClient.Change`.
Key theorems: `AttestationLightClient.verifySignaturesThreshold_quorum`,
`AttestationLightClient.updateClient_change`, `AttestationLightClient.step_change`,
`AttestationLightClient.run_backed`, `AttestationLightClient.run_keeps`, `AttestationLightClient.run_isMax`.
-/
import IbcEureka.Solidity.AttestationLightClient
import IbcEureka.Lib.Quorum
import IbcEureka.Lib.HeightMap

namespace AttestationLightClient

open Txn Quorum HeightMap

open ICS26Router (MsgVerifyMembership MsgVerifyNonMembership)

open SP1ICS07Tendermint (UpdateResult)

variable {X : Externals} {H : Hashes} {s s' : State}

/-! ## One lemma per function -/

@[simp] theorem notFrozen_eq_ok {u : Unit} : notFrozen s = .ok u ↔ s.clientState.isFrozen = false := by
  simp [notFrozen]

@[simp] theorem onlyProofSubmitter_eq_ok {b : Bool} {u : Unit} : onlyProofSubmitter b = .ok u ↔ b = true := by
  simp [onlyProofSubmitter]

theorem checkDuplicates_eq_ok {recovered : Address} {u : Unit} :
    ∀ {seen : List Address}, checkDuplicates seen recovered = .ok u ↔ recovered ∉ seen
  | [] => by simp [checkDuplicates]
  | prev :: seen => by
    have ih := @checkDuplicates_eq_ok recovered u seen
    unfold checkDuplicates at ih ⊢
    rw [List.forM.eq_2, bind_eq_ok, List.mem_cons, not_or]
    constructor
    · rintro ⟨_, hprev, hrest⟩
      exact ⟨fun h => (require_eq_ok.mp hprev) h.symm, ih.mp hrest⟩
    · rintro ⟨hne, hrest⟩
      exact ⟨(), require_eq_ok.mpr (Ne.symm hne), ih.mpr hrest⟩

/-- What `_verifySignature` checks of the signer it returns: the signature recovers to it, it is
not the zero address, and it is an attestor. -/
def SignerOf (X : Externals) (s : State) (digest sig : Bytes) (a : Address) : Prop :=
  X.recover digest sig = some a ∧ a ≠ 0 ∧ s.isAttestor a = true

theorem verifySignature_eq_ok {digest sig : Bytes} {a : Address} (h : verifySignature X s digest sig = .ok a) :
    SignerOf X s digest sig a := by
  simp only [verifySignature, bind_eq_ok, require_eq_ok, expect_eq_ok, pure_eq_ok] at h
  obtain ⟨_, -, recovered, hrec, _, hnz, _, hatt, rfl⟩ := h
  exact ⟨hrec, hnz, hatt⟩

theorem recordSigner_eq_ok {digest sig : Bytes} {seen seen' : List Address}
    (h : recordSigner X s digest seen sig = .ok seen') :
    ∃ a, seen' = seen ++ [a] ∧ a ∉ seen ∧ SignerOf X s digest sig a := by
  simp only [recordSigner, bind_eq_ok, pure_eq_ok] at h
  obtain ⟨a, hverify, _, hdup, rfl⟩ := h
  exact ⟨a, rfl, checkDuplicates_eq_ok.mp hdup, verifySignature_eq_ok hverify⟩

/-- `length > minRequiredSigs - 1` in `uint8`, at a non-zero threshold, is `length ≥ minRequiredSigs`. -/
theorem threshold_iff {m : UInt8} {n : ℕ} (hm : m ≠ 0) : (m - 1).toNat < n ↔ m.toNat ≤ n := by
  have hpos : m.toNat ≠ 0 := fun h0 => hm (UInt8.toNat_inj.mp (by simpa using h0))
  have hone : (1 : UInt8) ≤ m := by
    rw [UInt8.le_iff_toNat_le]
    simp only [UInt8.toNat_one]
    omega
  rw [UInt8.toNat_sub_of_le _ _ hone]
  simp only [UInt8.toNat_one]
  omega

theorem le_of_threshold {m : UInt8} {n : ℕ} (hm : m ≠ 0) (h : (m - 1).toNat < n) : m.toNat ≤ n :=
  (threshold_iff hm).mp h

/-- Some signature over `digest` recovers to the non-zero address `a`. -/
def Recovered (X : Externals) (digest : Bytes) (a : Address) : Prop :=
  ∃ sig, X.recover digest sig = some a ∧ a ≠ 0

/-- **The signature check.** Signatures that pass `_verifySignaturesThreshold` recover to at least
`minRequiredSigs` distinct attestors. -/
theorem verifySignaturesThreshold_quorum {digest : Bytes} {sigs : List Bytes} {u : Unit}
    (h : verifySignaturesThreshold X s digest sigs = .ok u) :
    HasQuorum (fun a => s.isAttestor a = true) (Recovered X digest) s.clientState.minRequiredSigs.toNat := by
  simp only [verifySignaturesThreshold, bind_eq_ok, require_eq_ok] at h
  obtain ⟨_, -, _, hnz, _, hlen, seen, hloop, -⟩ := h
  have hgood : ∀ sig a, SignerOf X s digest sig a → s.isAttestor a = true ∧ Recovered X digest a :=
    fun sig a hsigner => ⟨hsigner.2.2, sig, hsigner.1, hsigner.2.1⟩
  exact hasQuorum_of_foldlM (fun _ _ _ hstep => recordSigner_eq_ok hstep) hgood (le_of_threshold hnz hlen) hloop

/-- A state attestation for height `h` and timestamp `t`: some attestation data decodes to them,
and a quorum of attestors is recovered from signatures over its digest. -/
def StateAttested (X : Externals) (H : Hashes) (isAttestor : Address → Bool) (minRequiredSigs : UInt8)
    (h t : UInt64) : Prop :=
  ∃ data, X.decodeStateAttestation data = some ⟨h, t⟩ ∧
    HasQuorum (fun a => isAttestor a = true) (Recovered X (taggedSigningInput H data attestationTypeState))
      minRequiredSigs.toNat

/-- A packet attestation `pa` for height `h`: some attestation data decodes to it, and a quorum of
attestors is recovered from signatures over its digest. -/
def PacketAttested (X : Externals) (H : Hashes) (isAttestor : Address → Bool) (minRequiredSigs : UInt8)
    (h : UInt64) (pa : PacketAttestation) : Prop :=
  pa.height = h ∧ ∃ data, X.decodePacketAttestation data = some pa ∧
    HasQuorum (fun a => isAttestor a = true) (Recovered X (taggedSigningInput H data attestationTypePacket))
      minRequiredSigs.toNat

theorem attestedPackets_ok {proofBytes : Bytes} {h ts : UInt64} {pa : PacketAttestation}
    (hok : attestedPackets X H s proofBytes h = .ok (ts, pa)) :
    s.consensusTimestampAtHeight h = ts ∧ ts ≠ 0 ∧ PacketAttested X H s.isAttestor s.clientState.minRequiredSigs h pa := by
  simp only [attestedPackets, bind_eq_ok, require_eq_ok, expect_eq_ok, pure_eq_ok, Prod.mk.injEq] at hok
  obtain ⟨_, hts, proof, -, _, hsigs, pa', hdec, _, hheight, rfl, rfl⟩ := hok
  exact ⟨rfl, hts, hheight, proof.attestationData, hdec, verifySignaturesThreshold_quorum hsigs⟩

/-- **A membership answer rests on a packet attestation.** A `verifyMembership` that returns `t`
found the timestamp `t` stored at the proof height, and a packet attestation for that height, of a
quorum of attestors, with an entry for the path's hash whose commitment the value decodes to. -/
theorem verifyMembership_attested {b : Bool} {msg : MsgVerifyMembership} {t : ℕ}
    (h : verifyMembership X H s b msg = .ok t) :
    ∃ ts, s.consensusTimestampAtHeight msg.proofHeight.revisionHeight = ts ∧ ts ≠ 0 ∧ t = ts.toNat ∧
      ∃ pa, PacketAttested X H s.isAttestor s.clientState.minRequiredSigs msg.proofHeight.revisionHeight pa ∧
        ∃ p ∈ pa.packets, p.path = H.keccak256 (msg.path.headD []) ∧ X.decodeBytes32 msg.value = some p.commitment := by
  simp only [verifyMembership, bind_eq_ok, require_eq_ok, expect_eq_ok] at h
  obtain ⟨_, -, _, -, _, -, _, -, ⟨ts, pa⟩, hpackets, value, hvalue, _, -, hfind⟩ := h
  obtain ⟨hstored, hts, hattested⟩ := attestedPackets_ok hpackets
  split at hfind
  · rename_i hany
    obtain ⟨p, hp, hpath, hcommit⟩ := by simpa using hany
    exact ⟨ts, hstored, hts, (pure_eq_ok.mp hfind).symm, pa, hattested, p, hp, by simpa using hpath,
      by rw [hvalue, hcommit]⟩
  · cases hfind

/-- **A non-membership answer rests on a packet attestation.** A `verifyNonMembership` that returns
`t` found the timestamp `t` stored at the proof height, and a packet attestation for that height,
of a quorum of attestors, whose first entry for the path's hash has the zero commitment. -/
theorem verifyNonMembership_attested {b : Bool} {msg : MsgVerifyNonMembership} {t : ℕ}
    (h : verifyNonMembership X H s b msg = .ok t) :
    ∃ ts, s.consensusTimestampAtHeight msg.proofHeight.revisionHeight = ts ∧ ts ≠ 0 ∧ t = ts.toNat ∧
      ∃ pa, PacketAttested X H s.isAttestor s.clientState.minRequiredSigs msg.proofHeight.revisionHeight pa ∧
        ∃ p, pa.packets.find? (fun p => p.path = H.keccak256 (msg.path.headD [])) = some p ∧ p.commitment = zeroWord := by
  simp only [verifyNonMembership, bind_eq_ok, require_eq_ok] at h
  obtain ⟨_, -, _, -, _, -, ⟨ts, pa⟩, hpackets, _, -, hfind⟩ := h
  obtain ⟨hstored, hts, hattested⟩ := attestedPackets_ok hpackets
  split at hfind
  · rename_i p hp
    simp only [bind_eq_ok, require_eq_ok, pure_eq_ok] at hfind
    obtain ⟨_, hzero, rfl⟩ := hfind
    exact ⟨ts, hstored, hts, rfl, pa, hattested, p, hp, hzero⟩
  · cases hfind

theorem misbehaviour_ne_ok {b : Bool} {u : Unit} : misbehaviour s b ≠ .ok u := by
  intro h
  simp only [misbehaviour, bind_eq_ok] at h
  obtain ⟨_, -, _, -, h⟩ := h
  cases h

/-! ## What a call can do -/

/-- What a successful call does to the state. -/
inductive Change (X : Externals) (H : Hashes) (s s' : State) : Prop
  /-- Nothing changes. -/
  | quiet : s' = s → Change X H s s'
  /-- A live client freezes. -/
  | freeze : s.clientState.isFrozen = false → s' = s.freeze → Change X H s s'
  /-- A live client stores, at a height without a timestamp, a non-zero timestamp that a quorum
  attested there. -/
  | store (state : StateAttestation) : s.clientState.isFrozen = false → 0 < state.height → 0 < state.timestamp →
      StateAttested X H s.isAttestor s.clientState.minRequiredSigs state.height state.timestamp →
      s.consensusTimestampAtHeight state.height = 0 → s' = s.storeTimestamp state → Change X H s s'

theorem updateClient_change {b : Bool} {updateMsg : Bytes} {result : UpdateResult}
    (h : updateClient X H s b updateMsg = .ok (s', result)) : Change X H s s' := by
  simp only [updateClient, bind_eq_ok, notFrozen_eq_ok, onlyProofSubmitter_eq_ok, require_eq_ok, expect_eq_ok] at h
  obtain ⟨_, hlive, _, -, proof, -, _, hsigs, state, hdec, _, ⟨hh, ht⟩, hresult⟩ := h
  have hattested : StateAttested X H s.isAttestor s.clientState.minRequiredSigs state.height state.timestamp :=
    ⟨proof.attestationData, hdec, verifySignaturesThreshold_quorum hsigs⟩
  by_cases hempty : s.consensusTimestampAtHeight state.height = 0
  · simp only [hempty, ne_eq, not_true_eq_false, if_false, pure_eq_ok, Prod.mk.injEq] at hresult
    exact .store state hlive hh ht hattested hempty hresult.1.symm
  · -- a height with a timestamp: the client freezes on a conflict, and is left alone otherwise
    simp only [hempty, ne_eq, not_false_eq_true, if_true] at hresult
    split at hresult
    · exact .freeze hlive (Prod.mk.inj (pure_eq_ok.mp hresult)).1.symm
    · exact .quiet (Prod.mk.inj (pure_eq_ok.mp hresult)).1.symm

theorem step_change {c : Call} {evs : List Output} (h : step X H s c = .ok (s', evs)) : Change X H s s' := by
  cases c with
  | updateClient b updateMsg =>
    simp only [step, bind_eq_ok, pure_eq_ok, Prod.mk.injEq] at h
    obtain ⟨⟨s₁, result⟩, hupdate, rfl, -⟩ := h
    exact updateClient_change hupdate
  | verifyMembership b msg =>
    simp only [step, bind_eq_ok, pure_eq_ok, Prod.mk.injEq] at h
    obtain ⟨_, -, rfl, -⟩ := h
    exact .quiet rfl
  | verifyNonMembership b msg =>
    simp only [step, bind_eq_ok, pure_eq_ok, Prod.mk.injEq] at h
    obtain ⟨_, -, rfl, -⟩ := h
    exact .quiet rfl
  | misbehaviour b _ =>
    simp only [step, bind_eq_ok] at h
    obtain ⟨_, hmisbehaviour, -⟩ := h
    exact absurd hmisbehaviour misbehaviour_ne_ok

/-- A frozen client refuses every call. -/
theorem step_frozen (hfrozen : s.clientState.isFrozen = true) (c : Call) : step X H s c = .error .FrozenClientState := by
  have hnot : notFrozen s = .error .FrozenClientState := by
    simp [notFrozen, require, hfrozen]
  cases c <;> simp [step, updateClient, verifyMembership, verifyNonMembership, misbehaviour, hnot, bind, Except.bind]

/-! ## Stored timestamps: backed, kept, and the latest height the largest -/

theorem storeTimestamp_timestamps (state : StateAttestation) :
    (s.storeTimestamp state).consensusTimestampAtHeight =
      Function.update s.consensusTimestampAtHeight state.height state.timestamp := rfl

/-- The attestor list, the threshold and `_isAttestor`: what the constructor sets and no call
writes. -/
def State.attestorConfig (s : State) : List Address × UInt8 × (Address → Bool) :=
  (s.clientState.attestorAddresses, s.clientState.minRequiredSigs, s.isAttestor)

theorem change_attestorConfig (hc : Change X H s s') : s'.attestorConfig = s.attestorConfig := by
  cases hc with
  | quiet hs => rw [hs]
  | freeze _ hs =>
    rw [hs]
    rfl
  | store state _ _ _ _ _ hs =>
    rw [hs]
    unfold State.attestorConfig
    simp only [State.storeTimestamp_clientState]
    split <;> rfl

theorem change_keeps (hc : Change X H s s') :
    Keeps (· ≠ 0) s.consensusTimestampAtHeight s'.consensusTimestampAtHeight := by
  cases hc with
  | quiet hs =>
    rw [hs]
    exact Keeps.refl _
  | freeze _ hs =>
    rw [hs]
    exact Keeps.refl _
  | store state _ _ _ _ hempty hs =>
    rw [hs, storeTimestamp_timestamps]
    exact keeps_update (· ≠ 0) (not_not.mpr hempty) _

theorem change_isMax {base : UInt64} (hc : Change X H s s')
    (hm : IsMax (· ≠ 0) s.consensusTimestampAtHeight base s.clientState.latestHeight) :
    IsMax (· ≠ 0) s'.consensusTimestampAtHeight base s'.clientState.latestHeight := by
  cases hc with
  | quiet hs =>
    rw [hs]
    exact hm
  | freeze _ hs =>
    rw [hs]
    exact hm
  | store state _ _ ht _ _ hs =>
    have hnz : state.timestamp ≠ 0 := (UInt64.ne_of_lt ht).symm
    rw [hs, storeTimestamp_timestamps, State.storeTimestamp_clientState]
    by_cases habove : s.clientState.latestHeight < state.height
    · rw [if_pos habove]
      exact hm.update hnz (UInt64.le_of_lt habove) (UInt64.le_refl _) (.inr rfl)
    · rw [if_neg habove]
      exact hm.update hnz (UInt64.le_refl _) (UInt64.not_lt.mp habove) (.inl rfl)

/-- Every timestamp stored in `ts` is the initial one at the initial height, or was attested at its
height by a quorum of `isAttestor` at threshold `minRequiredSigs`. -/
def Backed (X : Externals) (H : Hashes) (isAttestor : Address → Bool) (minRequiredSigs : UInt8)
    (initialHeight initialTimestamp : UInt64) (ts : UInt64 → UInt64) : Prop :=
  ∀ h, ts h ≠ 0 → (h = initialHeight ∧ ts h = initialTimestamp) ∨ StateAttested X H isAttestor minRequiredSigs h (ts h)

theorem change_backed {isAttestor : Address → Bool} {minRequiredSigs : UInt8} {h₀ t₀ : UInt64}
    (hc : Change X H s s') (hatt : s.isAttestor = isAttestor) (hmin : s.clientState.minRequiredSigs = minRequiredSigs)
    (hb : Backed X H isAttestor minRequiredSigs h₀ t₀ s.consensusTimestampAtHeight) :
    Backed X H isAttestor minRequiredSigs h₀ t₀ s'.consensusTimestampAtHeight := by
  cases hc with
  | quiet hs =>
    rw [hs]
    exact hb
  | freeze _ hs =>
    rw [hs]
    exact hb
  | store state _ _ _ hattested _ hs =>
    rw [hatt, hmin] at hattested
    intro h hne
    rw [hs, storeTimestamp_timestamps] at hne ⊢
    by_cases hh : h = state.height
    · -- the new entry, attested at its height
      rw [hh, Function.update_self]
      exact .inr hattested
    · rw [Function.update_of_ne hh] at hne ⊢
      exact hb h hne

/-! ## From the constructor -/

/-- The constructor's loop makes attestors of exactly the listed addresses, beside those that
already were. -/
theorem foldlM_registerAttestor :
    ∀ {l : List Address} {f r : Address → Bool}, l.foldlM registerAttestor f = .ok r →
      ∀ a, r a = true ↔ f a = true ∨ a ∈ l
  | [], f, r, h => by
    have hfr : f = r := pure_eq_ok.mp h
    subst hfr
    simp
  | b :: l, f, r, h => by
    rw [List.foldlM_cons, bind_eq_ok] at h
    obtain ⟨f', hstep, hrest⟩ := h
    simp only [registerAttestor, bind_eq_ok, require_eq_ok, pure_eq_ok] at hstep
    obtain ⟨_, -, rfl⟩ := hstep
    intro a
    rw [foldlM_registerAttestor hrest a, List.mem_cons]
    by_cases hab : a = b
    · subst hab
      simp
    · rw [Function.update_of_ne hab]
      simp [hab]

theorem constructor_ok {attestors : List Address} {m : UInt8} {h₀ t₀ : UInt64} {s₀ : State}
    (h : constructor attestors m h₀ t₀ = .ok s₀) :
    s₀.clientState = ⟨attestors, m, h₀, false⟩ ∧ (∀ a, s₀.isAttestor a = true ↔ a ∈ attestors) ∧
      s₀.consensusTimestampAtHeight = Function.update (fun _ => 0) h₀ t₀ := by
  simp only [constructor, bind_eq_ok, require_eq_ok, pure_eq_ok] at h
  obtain ⟨_, -, _, -, isAttestor, hloop, rfl⟩ := h
  refine ⟨rfl, fun a => ?_, rfl⟩
  rw [foldlM_registerAttestor hloop a]
  simp

/-- The constructor stores at most the initial timestamp, at the initial height. -/
theorem constructor_stored {attestors : List Address} {m : UInt8} {h₀ t₀ : UInt64} {s₀ : State}
    (h : constructor attestors m h₀ t₀ = .ok s₀) {k : UInt64} (hk : s₀.consensusTimestampAtHeight k ≠ 0) :
    k = h₀ ∧ s₀.consensusTimestampAtHeight k = t₀ := by
  obtain ⟨-, -, hts⟩ := constructor_ok h
  rw [hts] at hk ⊢
  by_cases hkh : k = h₀
  · rw [hkh, Function.update_self]
    exact ⟨rfl, rfl⟩
  · rw [Function.update_of_ne hkh] at hk
    exact absurd rfl hk

theorem constructor_isMax {attestors : List Address} {m : UInt8} {h₀ t₀ : UInt64} {s₀ : State}
    (h : constructor attestors m h₀ t₀ = .ok s₀) :
    IsMax (· ≠ 0) s₀.consensusTimestampAtHeight h₀ s₀.clientState.latestHeight := by
  have hlatest : s₀.clientState.latestHeight = h₀ := by rw [(constructor_ok h).1]
  rw [hlatest]
  refine ⟨UInt64.le_refl _, .inl rfl, fun k hk => ?_⟩
  rw [(constructor_stored h hk).1]
  exact UInt64.le_refl _

/-! ## Along every run -/

section Run

variable {attestors : List Address} {m : UInt8} {h₀ t₀ : UInt64} {s₀ : State}

theorem run_attestorConfig (s : State) (log : List Output) (is : List Call) :
    (exec (step X H) (s, log) is).1.attestorConfig = s.attestorConfig :=
  exec_rel (step X H) (fun _ _ => True) (fun a b => b.attestorConfig = a.attestorConfig)
    (fun _ _ _ _ _ _ _ => trivial) (fun _ => rfl) (fun _ _ _ hab hbc => hbc.trans hab)
    (fun _ _ _ _ _ _ hok => change_attestorConfig (step_change hok)) is (s, log) trivial

theorem run_keeps (s : State) (log : List Output) (is : List Call) :
    Keeps (· ≠ 0) s.consensusTimestampAtHeight (exec (step X H) (s, log) is).1.consensusTimestampAtHeight :=
  exec_rel (step X H) (fun _ _ => True)
    (fun a b => Keeps (· ≠ 0) a.consensusTimestampAtHeight b.consensusTimestampAtHeight)
    (fun _ _ _ _ _ _ _ => trivial) (fun _ => Keeps.refl _) (fun _ _ _ hab hbc => hab.trans hbc)
    (fun _ _ _ _ _ _ hok => change_keeps (step_change hok)) is (s, log) trivial

theorem run_isMax (hinit : constructor attestors m h₀ t₀ = .ok s₀) (is : List Call) :
    IsMax (· ≠ 0) (exec (step X H) (s₀, []) is).1.consensusTimestampAtHeight h₀
      (exec (step X H) (s₀, []) is).1.clientState.latestHeight :=
  exec_induction (step X H) (fun s _ => IsMax (· ≠ 0) s.consensusTimestampAtHeight h₀ s.clientState.latestHeight)
    (fun _ _ _ _ _ hm hok => change_isMax (step_change hok) hm) is (s₀, []) (constructor_isMax hinit)

theorem run_backed (hinit : constructor attestors m h₀ t₀ = .ok s₀) (is : List Call) :
    Backed X H s₀.isAttestor s₀.clientState.minRequiredSigs h₀ t₀
      (exec (step X H) (s₀, []) is).1.consensusTimestampAtHeight := by
  -- the configuration stays the constructor's, so the backing keeps its quorum
  have hrun := exec_induction (step X H)
    (fun s _ => s.attestorConfig = s₀.attestorConfig ∧
      Backed X H s₀.isAttestor s₀.clientState.minRequiredSigs h₀ t₀ s.consensusTimestampAtHeight)
    (fun s _ _ _ _ hinv hok => by
      obtain ⟨hcfg, hb⟩ := hinv
      have hc := step_change hok
      have hsame : s.isAttestor = s₀.isAttestor ∧ s.clientState.minRequiredSigs = s₀.clientState.minRequiredSigs := by
        simp only [State.attestorConfig, Prod.mk.injEq] at hcfg
        exact ⟨hcfg.2.2, hcfg.2.1⟩
      exact ⟨(change_attestorConfig hc).trans hcfg, change_backed hc hsame.1 hsame.2 hb⟩)
    is (s₀, []) ⟨rfl, fun k hk => .inl (constructor_stored hinit hk)⟩
  exact hrun.2

end Run

/-! ## Under a model of recovery -/

section Signed

variable {signed : Address → Bytes → Prop} {attestors : List Address} {m : UInt8} {h₀ t₀ : UInt64} {s₀ : State}

/-- Under a recovery that returns a non-zero address only for a signer, a quorum recovered from
signatures over `digest` is a quorum of listed attestors that signed it. -/
theorem hasQuorum_signed (hrec : ∀ digest sig a, X.recover digest sig = some a → a ≠ 0 → signed a digest)
    {isAttestor : Address → Bool} (hatt : ∀ a, isAttestor a = true ↔ a ∈ attestors) {digest : Bytes} {k : ℕ}
    (h : HasQuorum (fun a => isAttestor a = true) (Recovered X digest) k) : HasQuorum (· ∈ attestors) (signed · digest) k :=
  h.mono (fun a hm _ => (hatt a).mp hm) (fun a _ ⟨sig, hr, hne⟩ => hrec digest sig a hr hne)

/-- Along a run from the constructor, the attestors and the threshold are the constructor's. -/
theorem run_config (hinit : constructor attestors m h₀ t₀ = .ok s₀) (is : List Call) :
    (∀ a, (exec (step X H) (s₀, []) is).1.isAttestor a = true ↔ a ∈ attestors) ∧
      (exec (step X H) (s₀, []) is).1.clientState.minRequiredSigs = m := by
  obtain ⟨hcs, hatt, -⟩ := constructor_ok hinit
  have hcfg := run_attestorConfig (X := X) (H := H) s₀ [] is
  simp only [State.attestorConfig, Prod.mk.injEq] at hcfg
  refine ⟨fun a => ?_, ?_⟩
  · rw [hcfg.2.2]
    exact hatt a
  · rw [hcfg.2.1, hcs]

/-- What the contract answers in a state, for a recovery model `signed` and the constructor's
attestors, threshold, initial height and timestamp: every stored timestamp but the initial one
was attested at its height by a quorum of signers; every membership answer found a stored
timestamp and a packet attestation for its height signed by such a quorum; the latest height is
the largest of the initial one and every height with a timestamp; a frozen client refuses every
call. -/
structure Sound (X : Externals) (H : Hashes) (signed : Address → Bytes → Prop) (attestors : List Address)
    (m : UInt8) (h₀ t₀ : UInt64) (s : State) : Prop where
  stored : ∀ h, s.consensusTimestampAtHeight h ≠ 0 → (h = h₀ ∧ s.consensusTimestampAtHeight h = t₀) ∨
    ∃ data, X.decodeStateAttestation data = some ⟨h, s.consensusTimestampAtHeight h⟩ ∧
      HasQuorum (· ∈ attestors) (signed · (taggedSigningInput H data attestationTypeState)) m.toNat
  membership : ∀ b (msg : MsgVerifyMembership) t, verifyMembership X H s b msg = .ok t →
    s.consensusTimestampAtHeight msg.proofHeight.revisionHeight ≠ 0 ∧
      t = (s.consensusTimestampAtHeight msg.proofHeight.revisionHeight).toNat ∧
      ∃ data pa, X.decodePacketAttestation data = some pa ∧ pa.height = msg.proofHeight.revisionHeight ∧
        HasQuorum (· ∈ attestors) (signed · (taggedSigningInput H data attestationTypePacket)) m.toNat
  nonMembership : ∀ b (msg : MsgVerifyNonMembership) t, verifyNonMembership X H s b msg = .ok t →
    s.consensusTimestampAtHeight msg.proofHeight.revisionHeight ≠ 0 ∧
      t = (s.consensusTimestampAtHeight msg.proofHeight.revisionHeight).toNat ∧
      ∃ data pa, X.decodePacketAttestation data = some pa ∧ pa.height = msg.proofHeight.revisionHeight ∧
        HasQuorum (· ∈ attestors) (signed · (taggedSigningInput H data attestationTypePacket)) m.toNat
  latest : IsMax (· ≠ 0) s.consensusTimestampAtHeight h₀ s.clientState.latestHeight
  frozen : s.clientState.isFrozen = true → ∀ c, step X H s c = .error .FrozenClientState

/-- A packet attestation of the state's quorum, in a state with the constructor's configuration,
is one of signers of the constructor's attestors. -/
theorem packetAttested_signed (hrec : ∀ digest sig a, X.recover digest sig = some a → a ≠ 0 → signed a digest)
    {s : State} (hatt : ∀ a, s.isAttestor a = true ↔ a ∈ attestors) (hmin : s.clientState.minRequiredSigs = m)
    {h : UInt64} {pa : PacketAttestation} (hpa : PacketAttested X H s.isAttestor s.clientState.minRequiredSigs h pa) :
    ∃ data, X.decodePacketAttestation data = some pa ∧ pa.height = h ∧
      HasQuorum (· ∈ attestors) (signed · (taggedSigningInput H data attestationTypePacket)) m.toNat := by
  obtain ⟨hheight, data, hdec, hq⟩ := hpa
  rw [hmin] at hq
  exact ⟨data, hdec, hheight, hasQuorum_signed hrec hatt hq⟩

/-- **The contract is sound along every run from the constructor.** -/
theorem run_sound (hrec : ∀ digest sig a, X.recover digest sig = some a → a ≠ 0 → signed a digest)
    (hinit : constructor attestors m h₀ t₀ = .ok s₀) (is : List Call) :
    Sound X H signed attestors m h₀ t₀ (exec (step X H) (s₀, []) is).1 := by
  obtain ⟨hatt, hmin⟩ := run_config (X := X) (H := H) hinit is
  obtain ⟨hcs, hatt₀, -⟩ := constructor_ok hinit
  refine ⟨fun h hne => ?_, fun b msg t hok => ?_, fun b msg t hok => ?_, run_isMax hinit is,
    fun hfrozen c => step_frozen hfrozen c⟩
  · rcases run_backed hinit is h hne with hinitial | ⟨data, hdec, hq⟩
    · exact .inl hinitial
    · rw [hcs] at hq
      exact .inr ⟨data, hdec, hasQuorum_signed hrec hatt₀ hq⟩
  · obtain ⟨ts, hts, hne, rfl, pa, hpa, -⟩ := verifyMembership_attested hok
    obtain ⟨data, hdec, hheight, hq⟩ := packetAttested_signed hrec hatt hmin hpa
    rw [hts]
    exact ⟨hne, rfl, data, pa, hdec, hheight, hq⟩
  · obtain ⟨ts, hts, hne, rfl, pa, hpa, -⟩ := verifyNonMembership_attested hok
    obtain ⟨data, hdec, hheight, hq⟩ := packetAttested_signed hrec hatt hmin hpa
    rw [hts]
    exact ⟨hne, rfl, data, pa, hdec, hheight, hq⟩

end Signed

/-! ## The membership answers, exactly -/

theorem recordSigner_eq_ok_iff {digest sig : Bytes} {seen seen' : List Address} (hlen : sig.length = 65) :
    recordSigner X s digest seen sig = .ok seen' ↔
      ∃ a, X.recover digest sig = some a ∧ a ≠ 0 ∧ s.isAttestor a = true ∧ a ∉ seen ∧ seen' = seen ++ [a] := by
  simp only [recordSigner, verifySignature, bind_eq_ok, require_eq_ok, expect_eq_ok, pure_eq_ok, checkDuplicates_eq_ok]
  constructor
  · rintro ⟨a, ⟨_, -, a', hrec, _, hne, _, hatt, rfl⟩, _, hdup, rfl⟩
    exact ⟨a', hrec, hne, hatt, hdup, rfl⟩
  · rintro ⟨a, hrec, hne, hatt, hdup, rfl⟩
    exact ⟨a, ⟨(), hlen, a, hrec, (), hne, (), hatt, rfl⟩, (), hdup, rfl⟩

theorem verifySignaturesThreshold_eq_ok_iff {digest : Bytes} {sigs : List Bytes} {u : Unit} :
    verifySignaturesThreshold X s digest sigs = .ok u ↔
      0 < sigs.length ∧ s.clientState.minRequiredSigs ≠ 0 ∧ (s.clientState.minRequiredSigs - 1).toNat < sigs.length ∧
        ∃ r, sigs.foldlM (recordSigner X s digest) [] = .ok r := by
  simp only [verifySignaturesThreshold, bind_eq_ok, require_eq_ok, pure_eq_ok]
  constructor
  · rintro ⟨_, hne, _, hmin, _, hlen, r, hr, -⟩
    exact ⟨hne, hmin, hlen, r, hr⟩
  · rintro ⟨hne, hmin, hlen, r, hr⟩
    exact ⟨(), hne, (), hmin, (), hlen, r, hr, trivial⟩

section Answers

variable {proof data : Bytes} {sigs : List Bytes} {h : UInt64} {pa : PacketAttestation}

theorem attestedPackets_eq_ok_iff (hts : s.consensusTimestampAtHeight h ≠ 0)
    (hproof : X.decodeAttestationProof proof = some ⟨data, sigs⟩) (hpa : X.decodePacketAttestation data = some pa)
    (hheight : pa.height = h) {r : UInt64 × PacketAttestation} :
    attestedPackets X H s proof h = .ok r ↔
      verifySignaturesThreshold X s (taggedSigningInput H data attestationTypePacket) sigs = .ok () ∧
        r = (s.consensusTimestampAtHeight h, pa) := by
  simp only [attestedPackets, bind_eq_ok, require_eq_ok, expect_eq_ok, pure_eq_ok, hproof, Option.some.injEq]
  constructor
  · rintro ⟨_, -, _, rfl, u, hsigs, pa', hpa', _, -, rfl⟩
    simp only [hpa, Option.some.injEq] at hpa'
    subst hpa'
    exact ⟨hsigs, rfl⟩
  · rintro ⟨hsigs, rfl⟩
    exact ⟨(), hts, _, rfl, (), hsigs, _, hpa, (), hheight, rfl⟩

variable (hlive : s.clientState.isFrozen = false) (hts : s.consensusTimestampAtHeight h ≠ 0)
  (hproof : X.decodeAttestationProof proof = some ⟨data, sigs⟩) (hpa : X.decodePacketAttestation data = some pa)
  (hheight : pa.height = h)
include hlive hts hproof hpa hheight

theorem verifyMembership_ok_iff {revisionNumber : UInt64} {path value : Bytes}
    (hvalue : X.decodeBytes32 value = some value) (hne : value ≠ []) :
    (∃ t, verifyMembership X H s true ⟨proof, ⟨revisionNumber, h⟩, [path], value⟩ = .ok t) ↔
      verifySignaturesThreshold X s (taggedSigningInput H data attestationTypePacket) sigs = .ok () ∧ pa.packets ≠ [] ∧
        ∃ q ∈ pa.packets, q.path = H.keccak256 path ∧ q.commitment = value := by
  simp only [verifyMembership, bind_eq_ok, notFrozen_eq_ok, onlyProofSubmitter_eq_ok, require_eq_ok, expect_eq_ok,
    hvalue, Option.some.injEq]
  constructor
  · rintro ⟨t, _, -, _, -, _, -, _, -, r, hr, _, rfl, _, hnonempty, hany⟩
    obtain ⟨hsigs, rfl⟩ := (attestedPackets_eq_ok_iff hts hproof hpa hheight).mp hr
    split at hany
    · rename_i hfound
      exact ⟨hsigs, List.ne_nil_of_length_pos hnonempty, by simpa using hfound⟩
    · cases hany
  · rintro ⟨hsigs, hnonempty, hfound⟩
    have hr := (attestedPackets_eq_ok_iff hts hproof hpa hheight).mpr ⟨hsigs, rfl⟩
    refine ⟨(s.consensusTimestampAtHeight h).toNat, (), hlive, (), by simp, (), by simpa using hne, (), by simp, _, hr,
      _, rfl, (),
      List.length_pos_of_ne_nil hnonempty, ?_⟩
    rw [if_pos (by simpa using hfound)]
    rfl

theorem verifyNonMembership_ok_iff {revisionNumber : UInt64} {path : Bytes} :
    (∃ t, verifyNonMembership X H s true ⟨proof, ⟨revisionNumber, h⟩, [path]⟩ = .ok t) ↔
      verifySignaturesThreshold X s (taggedSigningInput H data attestationTypePacket) sigs = .ok () ∧ pa.packets ≠ [] ∧
        ∃ q, pa.packets.find? (fun q => q.path = H.keccak256 path) = some q ∧ q.commitment = zeroWord := by
  simp only [verifyNonMembership, bind_eq_ok, notFrozen_eq_ok, onlyProofSubmitter_eq_ok, require_eq_ok]
  constructor
  · rintro ⟨t, _, -, _, -, _, -, r, hr, _, hnonempty, hfind⟩
    obtain ⟨hsigs, rfl⟩ := (attestedPackets_eq_ok_iff hts hproof hpa hheight).mp hr
    split at hfind
    · rename_i q hq
      simp only [bind_eq_ok, require_eq_ok] at hfind
      obtain ⟨_, hzero, -⟩ := hfind
      exact ⟨hsigs, List.ne_nil_of_length_pos hnonempty, q, by simpa using hq, hzero⟩
    · cases hfind
  · rintro ⟨hsigs, hnonempty, q, hq, hzero⟩
    have hr := (attestedPackets_eq_ok_iff hts hproof hpa hheight).mpr ⟨hsigs, rfl⟩
    refine ⟨(s.consensusTimestampAtHeight h).toNat, (), hlive, (), by simp, (), by simp, _, hr, (),
      List.length_pos_of_ne_nil hnonempty, ?_⟩
    -- the match is on the same search as `hq`, up to the path's `headD`
    split
    · rename_i packet hpacket
      cases hpacket.symm.trans hq
      exact require_bind_eq_ok.mpr ⟨hzero, rfl⟩
    · rename_i hnone
      cases hnone.symm.trans hq

end Answers

end AttestationLightClient
