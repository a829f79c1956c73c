/-
# The transient cache of the SP1 Tendermint client answers only for proven pairs

A membership call with a proof checks one pair of an SP1 proof's output. When
that output has more than one pair, the call also caches every pair in
transient storage under `keccak256(abi.encode(revisionHeight, pair))`, with the
consensus state's time. A later call in the same transaction with an empty
proof is answered from that cache.

Under an injective Keccak-256, the cache key gives back the height and the
pair (`kvPairHash_inj`). This needs every length in the pair to fit in its ABI
word, which is true of anything `abi.decode` returns. So every non-zero cache
entry was written by a call of the transaction that proved exactly that pair
(`CacheSound`, `run_cacheSound`). Every answer, cached or not, is the time of a
consensus state whose hash the contract stores at the proof height, and the
SP1 proof behind it lists the pair asked about (`sp1_membership_sound`).

Like the rest of the contract, the cache goes by revision height only: the
revision number of a proof height is not part of a cache key.

Key definitions: `SP1ICS07Tendermint.ProofAttests`, `SP1ICS07Tendermint.Attests`,
`SP1ICS07Tendermint.CacheSound`.
Key theorems: `SP1ICS07Tendermint.kvPairHash_inj`, `SP1ICS07Tendermint.membership_cases`,
`SP1ICS07Tendermint.step_cacheSound`, `SP1ICS07Tendermint.sp1_membership_sound`.
-/
import IbcEureka.Solidity.SP1ICS07Invariants

namespace SP1ICS07Tendermint

open Txn HeightMap

open ICS26Router (Height MsgVerifyMembership MsgVerifyNonMembership)

variable {P : ProgramVkeys} {X : Externals} {H : Hashes} {s s' : State}

/-! ## Cache keys -/

/-- A pair the ABI can encode: every length fits in its 32-byte word. -/
def KVPair.Encodable (kv : KVPair) : Prop :=
  kv.path.length < 256 ^ 32 ∧ (∀ p ∈ kv.path, p.length < 256 ^ 32) ∧ kv.value.length < 256 ^ 32

/-- The two decoders of membership outputs give only pairs the ABI can encode. -/
def Externals.PairsEncodable (X : Externals) : Prop :=
  (∀ pv output, X.decodeMembershipOutput pv = some output → ∀ kv ∈ output.kvPairs, kv.Encodable) ∧
    ∀ pv output, X.decodeUcAndMembershipOutput pv = some output → ∀ kv ∈ output.kvPairs, kv.Encodable

/-- **A cache key gives back its height and its pair.** -/
theorem kvPairHash_inj (hinj : Function.Injective H.keccak256) {h h' : UInt64} {kv kv' : KVPair}
    (hkv : kv.Encodable) (hkv' : kv'.Encodable) (heq : kvPairHash H h kv = kvPairHash H h' kv') :
    h = h' ∧ kv = kv' := by
  have hpre := hinj heq
  rw [Abi.encode_uint_pair _ rfl rfl, Abi.encode_uint_pair _ rfl rfl] at hpre
  simp only [List.append_assoc] at hpre
  -- the height's word, then the three offset words, then the path and the value
  obtain ⟨hword, hpre⟩ := List.append_inj hpre (by simp)
  obtain ⟨-, hpre⟩ := List.append_inj hpre rfl
  obtain ⟨-, hpre⟩ := List.append_inj hpre rfl
  obtain ⟨-, hpre⟩ := List.append_inj hpre (by simp)
  obtain ⟨hpath, hvalue⟩ := Abi.array_bytes_enc_append_inj hkv.1 hkv'.1 hkv.2.1 hkv'.2.1 hpre
  have hvalue' : kv.value = kv'.value :=
    (Abi.bytes_enc_append_inj hkv.2.2 hkv'.2.2 (r := []) (by rw [List.append_nil, List.append_nil]; exact hvalue)).1
  have hbound : ∀ n : UInt64, n.toNat < 256 ^ 32 := fun n => lt_of_lt_of_le n.toNat_lt (by decide)
  refine ⟨UInt64.toNat_inj.mp (Bytes.be_inj_of_lt hword (hbound h) (hbound h')), ?_⟩
  cases kv
  cases kv'
  simp only at hpath hvalue'
  rw [hpath, hvalue']

/-- Under an injective Keccak-256, `Paths.equal` is equality. -/
theorem Paths.eq_of_equal (hinj : Function.Injective H.keccak256) :
    ∀ {a b : List Bytes}, Paths.equal H a b = true → a = b
  | [], [], _ => rfl
  | [], _ :: _, h => by simp [Paths.equal] at h
  | _ :: _, [], h => by simp [Paths.equal] at h
  | x :: a, y :: b, h => by
    simp only [Paths.equal, List.length_cons, List.zip_cons_cons, List.all_cons, Bool.and_eq_true, beq_iff_eq,
      add_left_inj] at h
    obtain ⟨hlen, ⟨-, hxy⟩, hrest⟩ := h
    have htail : Paths.equal H a b = true := by
      simp only [Paths.equal, Bool.and_eq_true, beq_iff_eq]
      exact ⟨hlen, hrest⟩
    rw [hinj hxy, Paths.eq_of_equal hinj htail]

theorem findKvPair_mem (hinj : Function.Injective H.keccak256) {kvPairs : List KVPair} {kvPath : List Bytes}
    {kvValue : Bytes} {u : Unit} (h : findKvPair H kvPairs kvPath kvValue = .ok u) : ⟨kvPath, kvValue⟩ ∈ kvPairs := by
  unfold findKvPair at h
  split at h
  · rename_i kv hfind
    have hpath : kv.path = kvPath := Paths.eq_of_equal hinj (by simpa using List.find?_some hfind)
    have hvalue : kv.value = kvValue := hinj (require_eq_ok.mp h).2
    rw [← hpath, ← hvalue]
    exact List.mem_of_find?_eq_some hfind
  · cases h

theorem cacheIfMany_kvCache {proofHeight : UInt64} {kvPairs : List KVPair} {timestamp : ℕ} (k : Bytes) :
    (cacheIfMany H s proofHeight kvPairs timestamp).kvCache k =
      if kvPairs.length > 1 ∧ ∃ kv ∈ kvPairs, kvPairHash H proofHeight kv = k then timestamp else s.kvCache k := by
  unfold cacheIfMany
  by_cases hmany : kvPairs.length > 1
  · rw [if_pos hmany, cacheKvPairs_kvCache, foldl_update_apply]
    simp [hmany]
  · rw [if_neg hmany]
    simp [hmany]

/-! ## What a membership call proves -/

/-- The SP1 proof inside the membership proof `mp` attests the pairs `kvPairs` against the
consensus state `cs` at revision height `h`: the verifier accepts it, and it is either a membership
program proof against `cs` as trusted consensus state, or an update-and-membership program proof
with `cs` as the new consensus state at `h`. -/
inductive ProofAttests (P : ProgramVkeys) (X : Externals) (mp : MembershipProof) (h : UInt64)
    (cs : ConsensusState) (kvPairs : List KVPair) : Prop
  | membership (proof : SP1MembershipProof) (output : MembershipOutput) :
      mp.proofType = .SP1MembershipProof → X.decodeSP1MembershipProof mp.proof = some proof →
      proof.sp1Proof.vKey = P.membershipProgramVkey →
      X.verifyProof proof.sp1Proof.vKey proof.sp1Proof.publicValues proof.sp1Proof.proof = true →
      X.decodeMembershipOutput proof.sp1Proof.publicValues = some output → output.kvPairs = kvPairs →
      output.commitmentRoot = cs.root → proof.trustedConsensusState = cs → ProofAttests P X mp h cs kvPairs
  | updateAndMembership (proof : SP1MembershipAndUpdateClientProof) (output : UcAndMembershipOutput) :
      mp.proofType = .SP1MembershipAndUpdateClientProof →
      X.decodeSP1MembershipAndUpdateClientProof mp.proof = some proof →
      proof.sp1Proof.vKey = P.updateClientAndMembershipProgramVkey →
      X.verifyProof proof.sp1Proof.vKey proof.sp1Proof.publicValues proof.sp1Proof.proof = true →
      X.decodeUcAndMembershipOutput proof.sp1Proof.publicValues = some output → output.kvPairs = kvPairs →
      output.updateClientOutput.newHeight.revisionHeight = h → output.updateClientOutput.newConsensusState = cs →
      ProofAttests P X mp h cs kvPairs

/-- The pairs an attesting proof lists come out of one of the two output decoders. -/
theorem ProofAttests.encodable (hout : X.PairsEncodable) {mp : MembershipProof} {h : UInt64} {cs : ConsensusState}
    {kvPairs : List KVPair} (ha : ProofAttests P X mp h cs kvPairs) : ∀ kv ∈ kvPairs, kv.Encodable := by
  cases ha with
  | membership proof output _ _ _ _ hdec hpairs _ _ =>
    rw [← hpairs]
    exact hout.1 _ _ hdec
  | updateAndMembership proof output _ _ _ _ hdec hpairs _ _ =>
    rw [← hpairs]
    exact hout.2 _ _ hdec

theorem checkTrustedConsensusState_stored {k : UInt64} {cs : ConsensusState} {u : Unit}
    (h : checkTrustedConsensusState H s k cs = .ok u) :
    s.consensusStateHashes k = hashConsensusState H cs ∧ hashConsensusState H cs ≠ zeroWord := by
  simp only [checkTrustedConsensusState, bind_eq_ok, getConsensusStateHash_eq_ok, require_eq_ok] at h
  obtain ⟨hash, ⟨hstored, hne⟩, heq⟩ := h
  rw [hstored, heq]
  exact ⟨rfl, heq ▸ hne⟩

theorem validateMembershipOutput_ok {root : Bytes} {k : UInt64} {cs : ConsensusState} {u : Unit}
    (h : validateMembershipOutput H s root k cs = .ok u) :
    s.consensusStateHashes k = hashConsensusState H cs ∧ hashConsensusState H cs ≠ zeroWord ∧ root = cs.root := by
  simp only [validateMembershipOutput, bind_eq_ok, require_eq_ok] at h
  obtain ⟨_, hcheck, hroot⟩ := h
  exact ⟨(checkTrustedConsensusState_stored hcheck).1, (checkTrustedConsensusState_stored hcheck).2, hroot⟩

/-- A plain membership proof: the pairs its SP1 proof attests against the consensus state stored at
the proof height, the pair checked among them, and the cache written with that state's time. -/
theorem handleSP1MembershipProof_attests {mp : MembershipProof} {proofHeight : Height} {kvPath : List Bytes}
    {kvValue : Bytes} {t : ℕ} (htype : mp.proofType = .SP1MembershipProof)
    (h : handleSP1MembershipProof P X H s proofHeight mp.proof kvPath kvValue = .ok (s', t)) :
    ∃ cs kvPairs, ProofAttests P X mp proofHeight.revisionHeight cs kvPairs ∧
      findKvPair H kvPairs kvPath kvValue = .ok () ∧
      s.consensusStateHashes proofHeight.revisionHeight = hashConsensusState H cs ∧
      hashConsensusState H cs ≠ zeroWord ∧
      s' = cacheIfMany H s proofHeight.revisionHeight kvPairs cs.timestamp.toNat ∧ t = getTimestampInSeconds cs := by
  simp only [handleSP1MembershipProof, bind_eq_ok, require_eq_ok, expect_eq_ok, verifySP1Proof_eq_ok, pure_eq_ok,
    Prod.mk.injEq] at h
  obtain ⟨proof, hdec, _, hvk, output, houtput, _, -, _, hfind, _, hvalid, _, hverify, rfl, rfl⟩ := h
  obtain ⟨hstored, hne, hroot⟩ := validateMembershipOutput_ok hvalid
  exact ⟨_, _, .membership proof output htype hdec hvk hverify houtput rfl hroot rfl, hfind, hstored, hne, rfl, rfl⟩

/-- An update-and-membership proof: the pairs its SP1 proof attests against the new consensus state,
whose hash is stored at the proof height once the update is in, the pair checked among them, and
the cache written with the new state's time. -/
theorem handleSP1UpdateClientAndMembership_attests {mp : MembershipProof} {now : ℕ} {proofHeight : Height}
    {kvPath : List Bytes} {kvValue : Bytes} {t : ℕ} (htype : mp.proofType = .SP1MembershipAndUpdateClientProof)
    (h : handleSP1UpdateClientAndMembership P X H s now proofHeight mp.proof kvPath kvValue = .ok (s', t)) :
    ∃ cs kvPairs s₁, ProofAttests P X mp proofHeight.revisionHeight cs kvPairs ∧
      findKvPair H kvPairs kvPath kvValue = .ok () ∧
      s₁.consensusStateHashes proofHeight.revisionHeight = hashConsensusState H cs ∧
      hashConsensusState H cs ≠ zeroWord ∧ s₁.kvCache = s.kvCache ∧
      s' = cacheIfMany H s₁ proofHeight.revisionHeight kvPairs cs.timestamp.toNat ∧ t = getTimestampInSeconds cs := by
  simp only [handleSP1UpdateClientAndMembership, bind_eq_ok, require_eq_ok, expect_eq_ok, verifySP1Proof_eq_ok,
    pure_eq_ok, Prod.mk.injEq] at h
  obtain ⟨proof, hdec, _, hvk, output, houtput, _, -, _, ⟨hrh, -⟩, _, -, _, hverify, s₁, hupdate, _, hfind, _,
    hvalid, rfl, rfl⟩ := h
  obtain ⟨hstored, hne, -⟩ := validateMembershipOutput_ok hvalid
  -- the update writes the consensus-state hashes only
  have hcache : s₁.kvCache = s.kvCache := by
    rcases updateForMembership_ok hupdate with ⟨-, rfl⟩ | rfl
    · rfl
    · rfl
  refine ⟨_, _, s₁, .updateAndMembership proof output htype hdec hvk hverify houtput rfl hrh.symm rfl, hfind, ?_, hne,
    hcache, rfl, rfl⟩
  rw [hrh]
  exact hstored

/-- **The two ways `_membership` answers.** With an empty proof, from a non-zero cache entry
for the pair at the proof height, changing nothing; with a proof, by an SP1 proof attesting a list
of pairs with the checked one, against a consensus state whose hash is then stored at the proof
height, and with the cache written as `cacheIfMany` writes it. -/
theorem membership_cases {now : ℕ} {proof : Bytes} {proofHeight : Height} {path : List Bytes} {value : Bytes}
    {t : ℕ} (h : membership P X H s now proof proofHeight path value = .ok (s', t)) :
    (proof.length = 0 ∧ s' = s ∧ s.kvCache (kvPairHash H proofHeight.revisionHeight ⟨path, value⟩) ≠ 0 ∧
      t = nanosToSeconds (s.kvCache (kvPairHash H proofHeight.revisionHeight ⟨path, value⟩))) ∨
    (proof.length ≠ 0 ∧ ∃ mp cs kvPairs, X.decodeMembershipProof proof = some mp ∧
      ProofAttests P X mp proofHeight.revisionHeight cs kvPairs ∧ findKvPair H kvPairs path value = .ok () ∧
      s'.consensusStateHashes proofHeight.revisionHeight = hashConsensusState H cs ∧
      hashConsensusState H cs ≠ zeroWord ∧
      (∀ k, s'.kvCache k = (cacheIfMany H s proofHeight.revisionHeight kvPairs cs.timestamp.toNat).kvCache k) ∧
      t = getTimestampInSeconds cs) := by
  unfold membership at h
  split at h
  · -- the cached answer
    rename_i hempty
    simp only [bind_eq_ok, pure_eq_ok, Prod.mk.injEq] at h
    obtain ⟨nanos, hcached, rfl, rfl⟩ := h
    simp only [getCachedKvPair, require_bind_eq_ok, pure_eq_ok] at hcached
    obtain ⟨hne, rfl⟩ := hcached
    exact .inl ⟨hempty, rfl, hne, rfl⟩
  · rename_i hproof
    simp only [bind_eq_ok, expect_eq_ok] at h
    obtain ⟨mp, hdec, hhandle⟩ := h
    refine .inr ⟨hproof, ?_⟩
    split at hhandle
    · rename_i htype
      obtain ⟨cs, kvPairs, hattests, hfind, hstored, hne, rfl, rfl⟩ := handleSP1MembershipProof_attests htype hhandle
      exact ⟨mp, cs, kvPairs, hdec, hattests, hfind, by rw [cacheIfMany_consensusStateHashes]; exact hstored, hne,
        fun _ => rfl, rfl⟩
    · rename_i htype
      obtain ⟨cs, kvPairs, s₁, hattests, hfind, hstored, hne, hcache, rfl, rfl⟩ :=
        handleSP1UpdateClientAndMembership_attests htype hhandle
      refine ⟨mp, cs, kvPairs, hdec, hattests, hfind, by rw [cacheIfMany_consensusStateHashes]; exact hstored, hne,
        fun k => ?_, rfl⟩
      rw [cacheIfMany_kvCache, cacheIfMany_kvCache, hcache]

theorem verifyMembership_membership {env : Env} {msg : MsgVerifyMembership} {r : State × ℕ}
    (h : verifyMembership P X H s env msg = .ok r) :
    membership P X H s env.timestamp msg.proof msg.proofHeight msg.path msg.value = .ok r := by
  simp only [verifyMembership, bind_eq_ok] at h
  obtain ⟨_, -, _, -, _, -, hmembership⟩ := h
  exact hmembership

theorem verifyNonMembership_membership {env : Env} {msg : MsgVerifyNonMembership} {r : State × ℕ}
    (h : verifyNonMembership P X H s env msg = .ok r) :
    membership P X H s env.timestamp msg.proof msg.proofHeight msg.path [] = .ok r := by
  simp only [verifyNonMembership, bind_eq_ok] at h
  obtain ⟨_, -, _, -, hmembership⟩ := h
  exact hmembership

theorem updateClient_kvCache {env : Env} {msgUpdateClient : MsgUpdateClient} {result : UpdateResult}
    (h : updateClient P X H s env msgUpdateClient = .ok (s', result)) : s'.kvCache = s.kvCache := by
  simp only [updateClient, bind_eq_ok] at h
  obtain ⟨_, -, _, -, _, -, output, -, _, -, hresult⟩ := h
  -- each of the three results keeps the transient storage
  cases hcheck : checkUpdateResult H s output with
  | Update =>
    rw [hcheck] at hresult
    simp only [bind_eq_ok, pure_eq_ok, Prod.mk.injEq] at hresult
    obtain ⟨_, -, rfl, -⟩ := hresult
    rfl
  | Misbehaviour =>
    rw [hcheck] at hresult
    simp only [bind_eq_ok, pure_eq_ok, Prod.mk.injEq] at hresult
    obtain ⟨_, -, rfl, -⟩ := hresult
    rfl
  | NoOp =>
    rw [hcheck] at hresult
    simp only [pure_eq_ok, Prod.mk.injEq] at hresult
    obtain ⟨rfl, -⟩ := hresult
    rfl

/-- The proof and the proof height a membership call carries. -/
def Call.membershipQuery : Call → Option (Bytes × Height)
  | .verifyMembership msg => some (msg.proof, msg.proofHeight)
  | .verifyNonMembership msg => some (msg.proof, msg.proofHeight)
  | .updateClient _ => none
  | .misbehaviour _ => none

/-- **What a call does to the transient storage.** It leaves it as it was, or it is a membership
call with a proof whose SP1 proof attests a list of pairs against a consensus state stored at the
proof height, and it writes the cache as `cacheIfMany` does for those pairs. -/
theorem step_cache_cases {env : Env} {c : Call} {out : List Output}
    (h : step P X H s (.call env c) = .ok (s', out)) :
    s'.kvCache = s.kvCache ∨
      ∃ proof proofHeight mp cs kvPairs, c.membershipQuery = some (proof, proofHeight) ∧ proof.length ≠ 0 ∧
        X.decodeMembershipProof proof = some mp ∧ ProofAttests P X mp proofHeight.revisionHeight cs kvPairs ∧
        s'.consensusStateHashes proofHeight.revisionHeight = hashConsensusState H cs ∧
        hashConsensusState H cs ≠ zeroWord ∧
        ∀ k, s'.kvCache k = (cacheIfMany H s proofHeight.revisionHeight kvPairs cs.timestamp.toNat).kvCache k := by
  -- a membership answer from the cache writes nothing; one from a proof writes what it proved
  have hanswer : ∀ {proof proofHeight path value t}, c.membershipQuery = some (proof, proofHeight) →
      membership P X H s env.timestamp proof proofHeight path value = .ok (s', t) → s'.kvCache = s.kvCache ∨
        ∃ proof proofHeight mp cs kvPairs, c.membershipQuery = some (proof, proofHeight) ∧ proof.length ≠ 0 ∧
          X.decodeMembershipProof proof = some mp ∧ ProofAttests P X mp proofHeight.revisionHeight cs kvPairs ∧
          s'.consensusStateHashes proofHeight.revisionHeight = hashConsensusState H cs ∧
          hashConsensusState H cs ≠ zeroWord ∧
          ∀ k, s'.kvCache k = (cacheIfMany H s proofHeight.revisionHeight kvPairs cs.timestamp.toNat).kvCache k := by
    intro proof proofHeight path value t hq hm
    rcases membership_cases hm with ⟨-, rfl, -, -⟩ | ⟨hlen, mp, cs, kvPairs, hdec, hattests, -, hstored, hne, hcache, -⟩
    · exact .inl rfl
    · exact .inr ⟨proof, proofHeight, mp, cs, kvPairs, hq, hlen, hdec, hattests, hstored, hne, hcache⟩
  cases c with
  | updateClient msgUpdateClient =>
    simp only [step, bind_eq_ok, pure_eq_ok, Prod.mk.injEq] at h
    obtain ⟨_, hcall, rfl, -⟩ := h
    exact .inl (updateClient_kvCache hcall)
  | verifyMembership msg =>
    simp only [step, bind_eq_ok, pure_eq_ok, Prod.mk.injEq] at h
    obtain ⟨_, hcall, rfl, -⟩ := h
    exact hanswer rfl (verifyMembership_membership hcall)
  | verifyNonMembership msg =>
    simp only [step, bind_eq_ok, pure_eq_ok, Prod.mk.injEq] at h
    obtain ⟨_, hcall, rfl, -⟩ := h
    exact hanswer rfl (verifyNonMembership_membership hcall)
  | misbehaviour msgSubmitMisbehaviour =>
    simp only [step, bind_eq_ok, pure_eq_ok, Prod.mk.injEq] at h
    obtain ⟨_, hcall, rfl, -⟩ := h
    simp only [misbehaviour, bind_eq_ok, pure_eq_ok] at hcall
    obtain ⟨_, -, _, -, _, -, _, -, _, -, _, -, rfl⟩ := hcall
    exact .inl rfl

/-! ## The cache along a transaction -/

/-- The call `c` proved the pair `kv` at revision height `h` against a consensus state with time
`nanos`, whose hash `s` stores at `h`: a membership call at `h` with a non-empty proof, whose SP1
proof attests a list of pairs holding `kv` against that consensus state. -/
inductive Attests (P : ProgramVkeys) (X : Externals) (H : Hashes) (s : State) (c : Call) (h : UInt64) (kv : KVPair)
    (nanos : ℕ) : Prop
  | intro (proof : Bytes) (proofHeight : Height) (mp : MembershipProof) (cs : ConsensusState)
      (kvPairs : List KVPair) : c.membershipQuery = some (proof, proofHeight) → proofHeight.revisionHeight = h →
      proof.length ≠ 0 → X.decodeMembershipProof proof = some mp → ProofAttests P X mp h cs kvPairs → kv ∈ kvPairs →
      cs.timestamp.toNat = nanos → s.consensusStateHashes h = hashConsensusState H cs →
      hashConsensusState H cs ≠ zeroWord → Attests P X H s c h kv nanos

/-- Stored hashes are never overwritten, so what a call proved stays proved. -/
theorem Attests.of_keeps (hkeeps : Keeps (· ≠ zeroWord) s.consensusStateHashes s'.consensusStateHashes)
    {c : Call} {h : UInt64} {kv : KVPair} {nanos : ℕ} (ha : Attests P X H s c h kv nanos) :
    Attests P X H s' c h kv nanos := by
  obtain ⟨proof, proofHeight, mp, cs, kvPairs, hq, hh, hlen, hdec, hattests, hmem, htime, hstored, hne⟩ := ha
  have hstored' : s'.consensusStateHashes h = hashConsensusState H cs := by
    rw [hkeeps h (by rw [hstored]; exact hne), hstored]
  exact ⟨proof, proofHeight, mp, cs, kvPairs, hq, hh, hlen, hdec, hattests, hmem, htime, hstored', hne⟩

/-- **The cache invariant.** Every non-zero entry of the transient storage sits under the key of
a pair the ABI can encode, which a call among the inputs `is` proved at the key's height against a
consensus state with the entry as time. -/
def CacheSound (P : ProgramVkeys) (X : Externals) (H : Hashes) (is : List Input) (s : State) : Prop :=
  ∀ k, s.kvCache k ≠ 0 → ∃ env c h kv, Input.call env c ∈ is ∧ kv.Encodable ∧ kvPairHash H h kv = k ∧
    Attests P X H s c h kv (s.kvCache k)

theorem CacheSound.mono {is : List Input} (hinv : CacheSound P X H is s) (i : Input) :
    CacheSound P X H (is ++ [i]) s := by
  intro k hk
  obtain ⟨env, c, h, kv, hmem, henc, hkey, ha⟩ := hinv k hk
  exact ⟨env, c, h, kv, List.mem_append_left _ hmem, henc, hkey, ha⟩

/-- **Every input keeps the cache invariant.** -/
theorem step_cacheSound (hout : X.PairsEncodable) {is : List Input} {i : Input} {out : List Output}
    (hinv : CacheSound P X H is s) (h : step P X H s i = .ok (s', out)) : CacheSound P X H (is ++ [i]) s' := by
  have hkeeps := change_keeps (step_change h)
  -- an entry the input did not write was proved before, and stays proved
  have hold : ∀ k, s'.kvCache k = s.kvCache k → s'.kvCache k ≠ 0 → ∃ env c h kv, Input.call env c ∈ is ++ [i] ∧
      kv.Encodable ∧ kvPairHash H h kv = k ∧ Attests P X H s' c h kv (s'.kvCache k) := by
    intro k heq hk
    rw [heq] at hk ⊢
    obtain ⟨env, c, h, kv, hmem, henc, hkey, ha⟩ := hinv k hk
    exact ⟨env, c, h, kv, List.mem_append_left _ hmem, henc, hkey, ha.of_keeps hkeeps⟩
  intro k hk
  cases i with
  | endTransaction =>
    -- the end of a transaction clears the cache
    simp only [step, pure_eq_ok, Prod.mk.injEq] at h
    obtain ⟨rfl, -⟩ := h
    exact absurd rfl hk
  | call env c =>
    rcases step_cache_cases h with hsame | ⟨proof, proofHeight, mp, cs, kvPairs, hq, hlen, hdec, hattests, hstored,
      hne, hcache⟩
    · exact hold k (congrFun hsame k) hk
    · by_cases hnew : kvPairs.length > 1 ∧ ∃ kv ∈ kvPairs, kvPairHash H proofHeight.revisionHeight kv = k
      · -- written by this call, with the time of the consensus state it proved against
        have hentry : s'.kvCache k = cs.timestamp.toNat := by rw [hcache, cacheIfMany_kvCache, if_pos hnew]
        obtain ⟨-, kv, hkv, hkey⟩ := hnew
        rw [hentry]
        exact ⟨env, c, proofHeight.revisionHeight, kv, List.mem_append_right _ (List.mem_singleton_self _),
          hattests.encodable hout kv hkv, hkey,
          ⟨proof, proofHeight, mp, cs, kvPairs, hq, rfl, hlen, hdec, hattests, hkv, rfl, hstored, hne⟩⟩
      · exact hold k (by rw [hcache, cacheIfMany_kvCache, if_neg hnew]) hk

/-- **Along every run from an empty cache, the cache invariant holds.** -/
theorem run_cacheSound (hout : X.PairsEncodable) {s₀ : State} (hempty : ∀ k, s₀.kvCache k = 0) (is : List Input) :
    CacheSound P X H is (exec (step P X H) (s₀, []) is).1 := by
  have hstart : CacheSound P X H [] s₀ := fun k hk => absurd (hempty k) hk
  have hrun := exec_inputs_induction (step P X H) (CacheSound P X H)
    (fun _ _ _ _ _ hinv h => step_cacheSound hout hinv h) (fun _ _ i hinv => hinv.mono i) is [] (s₀, []) hstart
  rwa [List.nil_append] at hrun

/-- **Every membership answer is proved.** Given the cache invariant for the inputs `is` so far,
an answer of `_membership` for a pair the ABI can encode, in the membership call `c`, is the
time in seconds of a consensus state against which `c` itself, or a call among `is`, proved that
very pair at the proof height. -/
theorem membership_sound (hinj : Function.Injective H.keccak256) {is : List Input} (hinv : CacheSound P X H is s)
    {c : Call} {now : ℕ} {proof : Bytes} {proofHeight : Height} {path : List Bytes} {value : Bytes} {t : ℕ}
    (hquery : KVPair.Encodable ⟨path, value⟩) (hc : c.membershipQuery = some (proof, proofHeight))
    (h : membership P X H s now proof proofHeight path value = .ok (s', t)) :
    ∃ c', (c' = c ∨ ∃ env, Input.call env c' ∈ is) ∧ ∃ nanos,
      Attests P X H s' c' proofHeight.revisionHeight ⟨path, value⟩ nanos ∧ nanosToSeconds nanos = t := by
  rcases membership_cases h with ⟨-, rfl, hne, rfl⟩ | ⟨hlen, mp, cs, kvPairs, hdec, hattests, hfind, hstored, hne, -, rfl⟩
  · -- a cache entry, proved by an earlier call for the pair under its key, which is this pair
    obtain ⟨env, c', h', kv, hmem, henc, hkey, ha⟩ := hinv _ hne
    obtain ⟨rfl, rfl⟩ := kvPairHash_inj hinj henc hquery hkey
    exact ⟨c', .inr ⟨env, hmem⟩, _, ha, rfl⟩
  · -- the call's own proof lists the pair it checked
    exact ⟨c, .inl rfl, cs.timestamp.toNat,
      ⟨proof, proofHeight, mp, cs, kvPairs, hc, rfl, hlen, hdec, hattests, findKvPair_mem hinj hfind, rfl, hstored, hne⟩,
      rfl⟩

theorem mem_calls_of_mem_inputs {calls : List (Env × Call)} {env : Env} {c : Call}
    (h : Input.call env c ∈ calls.map fun ec => Input.call ec.1 ec.2) : c ∈ calls.map Prod.snd := by
  obtain ⟨⟨env', c'⟩, hmem, heq⟩ := List.mem_map.mp h
  cases heq
  exact List.mem_map.mpr ⟨_, hmem, rfl⟩

/-- **Membership answers within a transaction are sound.** Let Keccak-256 be injective and the
membership outputs' decoders give pairs the ABI can encode. In a transaction that starts with an
empty transient storage and makes the calls `calls`, a `verifyMembership` of `(path, value)` or a
`verifyNonMembership` of `path` at `proofHeight` that returns `t` has, in this call or an earlier
one of the transaction, a proof the SP1 verifier accepted under the membership or the
update-and-membership key. Its output lists exactly that pair (the empty value for
non-membership) against a consensus state whose hash the contract stores at the proof height and
whose time in seconds is `t`. -/
theorem sp1_membership_sound (hinj : Function.Injective H.keccak256) (hout : X.PairsEncodable) {s₀ : State}
    (hempty : ∀ k, s₀.kvCache k = 0) (calls : List (Env × Call)) :
    (∀ env msg s' t, KVPair.Encodable ⟨msg.path, msg.value⟩ →
      verifyMembership P X H (exec (step P X H) (s₀, []) (calls.map fun ec => .call ec.1 ec.2)).1 env msg =
        .ok (s', t) →
      ∃ c ∈ calls.map Prod.snd ++ [.verifyMembership msg], ∃ nanos,
        Attests P X H s' c msg.proofHeight.revisionHeight ⟨msg.path, msg.value⟩ nanos ∧ nanosToSeconds nanos = t) ∧
    (∀ env msg s' t, KVPair.Encodable ⟨msg.path, []⟩ →
      verifyNonMembership P X H (exec (step P X H) (s₀, []) (calls.map fun ec => .call ec.1 ec.2)).1 env msg =
        .ok (s', t) →
      ∃ c ∈ calls.map Prod.snd ++ [.verifyNonMembership msg], ∃ nanos,
        Attests P X H s' c msg.proofHeight.revisionHeight ⟨msg.path, []⟩ nanos ∧ nanosToSeconds nanos = t) := by
  have hinv := run_cacheSound (P := P) (H := H) hout hempty (calls.map fun ec => .call ec.1 ec.2)
  -- the call answering, or one of the transaction's calls before it
  have hcalls : ∀ {c c' : Call}, (c' = c ∨ ∃ env, Input.call env c' ∈ calls.map fun ec => Input.call ec.1 ec.2) →
      c' ∈ calls.map Prod.snd ++ [c] := by
    rintro c c' (rfl | ⟨env, hmem⟩)
    · exact List.mem_append_right _ (List.mem_singleton_self _)
    · exact List.mem_append_left _ (mem_calls_of_mem_inputs hmem)
  constructor
  · intro env msg s' t hquery h
    obtain ⟨c', hc', hproved⟩ := membership_sound hinj hinv (c := .verifyMembership msg) hquery rfl (verifyMembership_membership h)
    exact ⟨c', hcalls hc', hproved⟩
  · intro env msg s' t hquery h
    obtain ⟨c', hc', hproved⟩ := membership_sound hinj hinv (c := .verifyNonMembership msg) hquery rfl
      (verifyNonMembership_membership h)
    exact ⟨c', hcalls hc', hproved⟩

/-- Externals for a membership proof: every proof is a membership program proof against the
consensus state at time 7 s, proving the pairs `a ↦ v` and `b ↦ w`, and the verifier accepts it. -/
def membershipExternals : Externals where
  verifyProof _ _ _ := true
  decodeUpdateClientOutput _ := none
  decodeMembershipProof proof := some ⟨.SP1MembershipProof, proof⟩
  decodeSP1MembershipProof _ := some ⟨⟨[2], [], []⟩, sampleConsensusState 7000000000⟩
  decodeSP1MembershipAndUpdateClientProof _ := none
  decodeMembershipOutput _ := some ⟨zeroWord, [⟨[[0x61]], [0x76]⟩, ⟨[[0x62]], [0x77]⟩]⟩
  decodeUcAndMembershipOutput _ := none
  decodeMisbehaviourOutput _ := none

theorem membershipExternals_pairsEncodable : membershipExternals.PairsEncodable := by
  refine ⟨fun _ _ h kv hkv => ?_, fun _ _ h => by cases h⟩
  cases h
  simp only [List.mem_cons, List.not_mem_nil, or_false] at hkv
  rcases hkv with rfl | rfl <;> simp [KVPair.Encodable]

/-- The sample client with the hash of the consensus state at 7 s stored at height 10. -/
def membershipDeployment : State :=
  ⟨sampleClientState,
    Function.update (fun _ => zeroWord) 10 (hashConsensusState ICS26Router.consHashes (sampleConsensusState 7000000000)),
    fun _ => 0⟩

/-- One call that proves `a ↦ v` at height 10, which caches both proven pairs. -/
def membershipCalls : List (Env × Call) :=
  [(⟨1000, true⟩, .verifyMembership ⟨[1], ⟨0, 10⟩, [[0x61]], [0x76]⟩)]

/-- The state and the outputs after `membershipCalls`. -/
def membershipRun : State × List Output :=
  exec (step sampleVkeys membershipExternals ICS26Router.consHashes) (membershipDeployment, [])
    (membershipCalls.map fun ec => .call ec.1 ec.2)

/-- A later query of `b ↦ w` at height 10 with an empty proof, answered from the cache. -/
def cachedQuery : MsgVerifyMembership := ⟨[], ⟨0, 10⟩, [[0x62]], [0x77]⟩

set_option maxRecDepth 20000 in
theorem sp1_membership_sound_sample :
    membershipRun.2 = [.timestamp 7] ∧
      verifyMembership sampleVkeys membershipExternals ICS26Router.consHashes membershipRun.1 ⟨1000, true⟩
        cachedQuery = .ok (membershipRun.1, 7) ∧
      ∃ c ∈ membershipCalls.map Prod.snd ++ [.verifyMembership cachedQuery], ∃ nanos,
        Attests sampleVkeys membershipExternals ICS26Router.consHashes membershipRun.1 c 10 ⟨[[0x62]], [0x77]⟩
          nanos ∧ nanosToSeconds nanos = 7 := by
  have hok : verifyMembership sampleVkeys membershipExternals ICS26Router.consHashes membershipRun.1 ⟨1000, true⟩
      cachedQuery = .ok (membershipRun.1, 7) := by rfl
  refine ⟨by decide, hok, ?_⟩
  exact (sp1_membership_sound ICS26Router.consHashes_keccak256_injective membershipExternals_pairsEncodable
    (fun _ => rfl) membershipCalls).1 _ _ _ _ (by simp [KVPair.Encodable, cachedQuery]) hok

end SP1ICS07Tendermint
