/-
# The two attestation light clients

`AttestationLightClient` on Ethereum and the `attestation` program on Solana
trust an attestor set the same way: a quorum of distinct attestors must be
recovered from signatures over `sha256(tag || sha256(data))`. Under a recovery
that gives a non-zero address only for a signer, both are sound along every
run (`attestation_clients_sound`): every stored timestamp but the
constructor's was attested at its height by a quorum of signers, every
membership answer rests on a packet attestation for its height signed by such
a quorum, no stored timestamp changes, the latest height is the largest one
stored (or the initial one), and a frozen client changes no more.

The Solidity contract rejects a recovered zero address; the Solana program does
not, but its recovered address is the tail of a Keccak-256 hash, which is never
twenty zero bytes (`Attestation.recoverEthAddress_ne_zero`).

For one packet query put to both clients (`SameQuery`), the program answers from the first
attested entry for the path's hash, the contract's membership from any entry with the path and the
word. Non-membership agrees; membership agrees for a non-zero word once the attested paths are
distinct (`attestation_membership_agree`). A zero word is a member of a path with a zero
commitment on Ethereum, which also proves it absent, and not on Solana
(`zero_value_member_on_contract_only`).

Key theorems: `attestation_clients_sound`, `attestation_membership_agree`,
`zero_value_member_on_contract_only`.
-/
import IbcEureka.Solidity.AttestationInvariants
import IbcEureka.Solana.AttestationInvariants

namespace CrossChain

open Txn Quorum HeightMap

/-- **Both attestation clients are sound.** For a recovery model of each (a recovered non-zero
address signed the digest), and a Keccak-256 that never ends in twenty zero bytes on Solana, along
every run of the contract from its constructor and of the program from `initialize`, each client's
answers rest on quorums of signers, and what it stores is kept by every later run. -/
theorem attestation_clients_sound {XE : AttestationLightClient.Externals} {HE : Hashes}
    {signedE : Address → Bytes → Prop} (hrecE : ∀ digest sig a, XE.recover digest sig = some a → a ≠ 0 → signedE a digest)
    {attestorsE : List Address} {mE : UInt8} {h₀ t₀ : UInt64} {e₀ : AttestationLightClient.State}
    (hinitE : AttestationLightClient.constructor attestorsE mE h₀ t₀ = .ok e₀) (isE jsE : List AttestationLightClient.Call)
    {XS : Attestation.Externals} {HS : Hashes} {signedS : Bytes → Bytes → Prop}
    (hrecS : ∀ digest sig a, Attestation.recoverEthAddress XS HS digest sig = .ok a → a ≠ Attestation.zeroAddress →
      signedS a digest)
    (hnzS : ∀ pubkey, Attestation.pubkeyToEthAddress HS pubkey ≠ Attestation.zeroAddress)
    {b : Bool} {attestorsS : List Bytes} {mS : UInt8} {am : Ics26Router.Pubkey} {s₀ : Attestation.State}
    (hinitS : Attestation.initializeClient .empty b attestorsS mS am = .ok s₀) (isS jsS : List Attestation.Instruction) :
    (AttestationLightClient.Sound XE HE signedE attestorsE mE h₀ t₀ (exec (AttestationLightClient.step XE HE) (e₀, []) isE).1 ∧
      Keeps (· ≠ 0) (exec (AttestationLightClient.step XE HE) (e₀, []) isE).1.consensusTimestampAtHeight
        (exec (AttestationLightClient.step XE HE) (e₀, []) (isE ++ jsE)).1.consensusTimestampAtHeight) ∧
    (Attestation.Sound XS HS signedS attestorsS mS (exec (Attestation.step XS HS) (s₀, []) isS).1 ∧
      Keeps (· ≠ none) (exec (Attestation.step XS HS) (s₀, []) isS).1.consensusStates
        (exec (Attestation.step XS HS) (s₀, []) (isS ++ jsS)).1.consensusStates) := by
  have hinvS := Attestation.run_clientInv (Attestation.initializeClient_clientInv (X := XS) (H := HS) hinitS) [] isS
  rw [exec_append, exec_append]
  exact ⟨⟨AttestationLightClient.run_sound hrecE hinitE isE, AttestationLightClient.run_keeps _ _ jsE⟩,
    ⟨Attestation.run_sound hrecS hnzS hinitS isS, Attestation.run_keeps hinvS _ jsS⟩⟩

/-- A Keccak-256 whose every hash is the word `1`: every public key has the address `1`. -/
def oneKeccak : Hashes := ⟨id, fun _ => Bytes.be 32 1⟩

/-- The contract's externals for attested runs: every signature recovers to the address `1`; a
message is its own attestation data with one 65-byte signature; data `[h, t]` attest time `t` at
height `h`, and data `[h]` the packet list `packets` at height `h`. -/
def attestedContract (packets : List AttestationLightClient.PacketCompact) : AttestationLightClient.Externals :=
  ⟨fun _ _ => some 1, fun msg => some ⟨msg, [List.replicate 65 0]⟩,
    fun | [h, t] => some ⟨h.toUInt64, t.toUInt64⟩ | _ => none,
    fun | [h] => some ⟨h.toUInt64, packets⟩ | _ => none, some⟩

/-- The program's externals for attested runs, with the same attestation data. -/
def attestedProgram (packets : List AttestationLightClient.PacketCompact) : Attestation.Externals :=
  ⟨fun proof => some ⟨proof, [List.replicate 65 0]⟩, fun | [h, t] => some ⟨h.toUInt64, t.toUInt64⟩ | _ => none,
    fun | [h] => some ⟨h.toUInt64, packets⟩ | _ => none, fun _ _ _ => some []⟩

/-- The contract deployed with the address `1` as its only attestor, at height 1 and time 1. -/
def attestedDeployment : AttestationLightClient.State :=
  ⟨⟨[1], 1, 1, false⟩, Function.update (fun _ => false) 1 true, Function.update (fun _ => 0) 1 1⟩

/-- The contract's run: time 7 attested at height 5, then the word `2` proven at the path `""` at
height 5. -/
def attestedCalls : List AttestationLightClient.Call :=
  [.updateClient true [5, 7], .verifyMembership true ⟨[5], ⟨0, 5⟩, [[]], Bytes.be 32 2⟩]

/-- The program just after `initialize` with the address `1` as its only attestor. -/
def attestedProgramDeployment : Attestation.State :=
  ⟨some ⟨[Bytes.be 20 1], 1, 0, false⟩, some [1], fun _ => none⟩

/-- The program's run: time 7 attested at height 5, and the path `""` proven absent at height 5. -/
def attestedInstructions : List Attestation.Instruction :=
  [.updateClient true 5 [5, 7], .verifyNonMembership ⟨5, [5], [[]]⟩]

theorem attestation_clients_sound_sample :
    (exec (AttestationLightClient.step (attestedContract [⟨Bytes.be 32 1, Bytes.be 32 2⟩]) oneKeccak)
        (attestedDeployment, []) attestedCalls).2 = [.updateResult .Update, .timestamp 7] ∧
      (exec (Attestation.step (attestedProgram [⟨Bytes.be 32 1, zeroWord⟩]) oneKeccak)
        (attestedProgramDeployment, []) attestedInstructions).2 = [.timestamp 7] ∧
      (AttestationLightClient.Sound (attestedContract [⟨Bytes.be 32 1, Bytes.be 32 2⟩]) oneKeccak (fun a _ => a = 1)
          [1] 1 1 1 (exec (AttestationLightClient.step (attestedContract [⟨Bytes.be 32 1, Bytes.be 32 2⟩]) oneKeccak)
            (attestedDeployment, []) attestedCalls).1 ∧
        Keeps (· ≠ 0)
          (exec (AttestationLightClient.step (attestedContract [⟨Bytes.be 32 1, Bytes.be 32 2⟩]) oneKeccak)
            (attestedDeployment, []) attestedCalls).1.consensusTimestampAtHeight
          (exec (AttestationLightClient.step (attestedContract [⟨Bytes.be 32 1, Bytes.be 32 2⟩]) oneKeccak)
            (attestedDeployment, []) (attestedCalls ++ [.updateClient true [6, 9]])).1.consensusTimestampAtHeight) ∧
      (Attestation.Sound (attestedProgram [⟨Bytes.be 32 1, zeroWord⟩]) oneKeccak (fun a _ => a = Bytes.be 20 1)
          [Bytes.be 20 1] 1 (exec (Attestation.step (attestedProgram [⟨Bytes.be 32 1, zeroWord⟩]) oneKeccak)
            (attestedProgramDeployment, []) attestedInstructions).1 ∧
        Keeps (· ≠ none)
          (exec (Attestation.step (attestedProgram [⟨Bytes.be 32 1, zeroWord⟩]) oneKeccak)
            (attestedProgramDeployment, []) attestedInstructions).1.consensusStates
          (exec (Attestation.step (attestedProgram [⟨Bytes.be 32 1, zeroWord⟩]) oneKeccak)
            (attestedProgramDeployment, []) (attestedInstructions ++ [.updateClient true 6 [6, 9]])).1.consensusStates) := by
  -- every public key has the address `1`
  have haddr : ∀ pubkey, Attestation.pubkeyToEthAddress oneKeccak pubkey = Bytes.be 20 1 := fun _ => rfl
  have hrecS : ∀ digest sig a, Attestation.recoverEthAddress (attestedProgram [⟨Bytes.be 32 1, zeroWord⟩]) oneKeccak
      digest sig = .ok a → a ≠ Attestation.zeroAddress → a = Bytes.be 20 1 := by
    intro digest sig a h _
    simp only [Attestation.recoverEthAddress, bind_eq_ok, expect_eq_ok, pure_eq_ok] at h
    obtain ⟨_, -, pubkey, -, rfl⟩ := h
    exact haddr pubkey
  have hnzS : ∀ pubkey, Attestation.pubkeyToEthAddress oneKeccak pubkey ≠ Attestation.zeroAddress := by
    intro pubkey
    rw [haddr]
    decide
  have hinitE : AttestationLightClient.constructor [1] 1 1 1 = .ok attestedDeployment := rfl
  have hrecE : ∀ digest sig a, (attestedContract [⟨Bytes.be 32 1, Bytes.be 32 2⟩]).recover digest sig = some a →
      a ≠ 0 → a = 1 := fun _ _ _ h _ => (Option.some.inj h).symm
  refine ⟨by decide, by decide, ?_⟩
  exact attestation_clients_sound hrecE hinitE attestedCalls [.updateClient true [6, 9]] hrecS hnzS
    (rfl : Attestation.initializeClient .empty true [Bytes.be 20 1] 1 [1] = .ok attestedProgramDeployment)
    attestedInstructions [.updateClient true 6 [6, 9]]

/-! ## The membership answers of the two clients -/

/-- An Ethereum address as the program holds it: its twenty bytes, big-endian. -/
def addressBytes (a : Address) : Bytes := Bytes.be 20 a.toNat

theorem addressBytes_injective : Function.Injective addressBytes := by
  intro a b h
  have hbound : ∀ c : Address, c.toNat < 256 ^ 20 := fun c => lt_of_lt_of_le c.isLt (by decide : 2 ^ 160 ≤ 256 ^ 20)
  exact BitVec.eq_of_toNat_eq (Bytes.be_inj_of_lt h (hbound a) (hbound b))

theorem addressBytes_zero : addressBytes 0 = Attestation.zeroAddress := by decide

section Agree

variable {XE : AttestationLightClient.Externals} {XS : Attestation.Externals} {H : Hashes}
  {e : AttestationLightClient.State} {cs : Attestation.ClientState} {digest : Bytes}

/-- **The two signature loops agree.** When every signature recovers to the same signer on both
sides, and the attestors are the same (the zero address not among them), the contract's loop
passes from the signers `seen` exactly when the program's passes from their bytes. -/
theorem foldlM_recordSigner_agree (hatt : ∀ a, e.isAttestor a = true ↔ addressBytes a ∈ cs.attestorAddresses)
    (hzero : Attestation.zeroAddress ∉ cs.attestorAddresses) :
    ∀ {sigs : List Bytes}, (∀ sig ∈ sigs, sig.length = 65 ∧
      (XE.recover digest sig).map addressBytes = (Attestation.recoverEthAddress XS H digest sig).toOption) →
      ∀ seen : List Address, (∃ r, sigs.foldlM (AttestationLightClient.recordSigner XE e digest) seen = .ok r) ↔
        ∃ r, sigs.foldlM (Attestation.recordSigner XS H cs digest) (seen.map addressBytes) = .ok r
  | [], _, seen => by simp
  | sig :: sigs, hagree, seen => by
    obtain ⟨hlen, hrec⟩ := hagree sig List.mem_cons_self
    have ih := foldlM_recordSigner_agree hatt hzero fun s hs => hagree s (List.mem_cons_of_mem _ hs)
    simp only [List.foldlM_cons, bind_eq_ok]
    constructor
    · rintro ⟨r, seen', hstep, hrest⟩
      obtain ⟨a, hrecE, _, hattE, hnew, rfl⟩ := (AttestationLightClient.recordSigner_eq_ok_iff hlen).mp hstep
      -- the program recovers the same signer, new and an attestor there too
      have hrecS : Attestation.recoverEthAddress XS H digest sig = .ok (addressBytes a) := by
        rw [hrecE, Option.map_some] at hrec
        cases hS : Attestation.recoverEthAddress XS H digest sig with
        | error err =>
          rw [hS] at hrec
          simp [Except.toOption] at hrec
        | ok b =>
          rw [hS] at hrec
          exact congrArg Except.ok (Option.some.inj hrec).symm
      have hnewS : addressBytes a ∉ seen.map addressBytes := by
        rwa [List.mem_map_of_injective addressBytes_injective]
      obtain ⟨r', hr'⟩ := (ih (seen ++ [a])).mp ⟨r, hrest⟩
      rw [List.map_append, List.map_singleton] at hr'
      exact ⟨r', _, Attestation.recordSigner_eq_ok_iff.mpr ⟨_, hrecS, hnewS, (hatt a).mp hattE, rfl⟩, hr'⟩
    · rintro ⟨r, seen', hstep, hrest⟩
      obtain ⟨b, hrecS, hnew, hmem, rfl⟩ := Attestation.recordSigner_eq_ok_iff.mp hstep
      -- the contract recovers a signer with these bytes; an attestor, so not the zero address
      rw [hrecS] at hrec
      obtain ⟨a, hrecE, rfl⟩ := Option.map_eq_some_iff.mp hrec
      have hne : a ≠ 0 := by
        rintro rfl
        rw [addressBytes_zero] at hmem
        exact hzero hmem
      have hnewE : a ∉ seen := by rwa [← List.mem_map_of_injective addressBytes_injective]
      have hseen : seen.map addressBytes ++ [addressBytes a] = (seen ++ [a]).map addressBytes := by
        rw [List.map_append, List.map_singleton]
      rw [hseen] at hrest
      obtain ⟨r', hr'⟩ := (ih (seen ++ [a])).mpr ⟨r, hrest⟩
      exact ⟨r', _, (AttestationLightClient.recordSigner_eq_ok_iff hlen).mpr ⟨a, hrecE, hne, (hatt a).mpr hmem, hnewE, rfl⟩,
        hr'⟩

/-- **The two signature checks agree**, for the same data, signatures, attestors and threshold. -/
theorem signatureChecks_agree {data : Bytes} {sigs : List Bytes}
    (hatt : ∀ a, e.isAttestor a = true ↔ addressBytes a ∈ cs.attestorAddresses)
    (hzero : Attestation.zeroAddress ∉ cs.attestorAddresses)
    (hmin : e.clientState.minRequiredSigs = cs.minRequiredSigs) (hpos : cs.minRequiredSigs ≠ 0)
    (hagree : ∀ sig ∈ sigs, sig.length = 65 ∧ (XE.recover (Attestation.taggedSigningInput H data .Packet) sig).map
      addressBytes = (Attestation.recoverEthAddress XS H (Attestation.taggedSigningInput H data .Packet) sig).toOption) :
    AttestationLightClient.verifySignaturesThreshold XE e
        (AttestationLightClient.taggedSigningInput H data AttestationLightClient.attestationTypePacket) sigs = .ok () ↔
      Attestation.verifyAttestation XS H cs data sigs .Packet = .ok () := by
  -- the one-byte tags are the same, so are the digests
  have hdigest : AttestationLightClient.taggedSigningInput H data AttestationLightClient.attestationTypePacket =
      Attestation.taggedSigningInput H data .Packet := rfl
  have hloop := foldlM_recordSigner_agree hatt hzero hagree []
  rw [AttestationLightClient.verifySignaturesThreshold_eq_ok_iff, Attestation.verifyAttestation_eq_ok_iff, hmin, hdigest,
    AttestationLightClient.threshold_iff hpos]
  rw [List.map_nil] at hloop
  constructor
  · rintro ⟨hlen, -, hle, hrun⟩
    exact ⟨List.ne_nil_of_length_pos hlen, hle, hloop.mp hrun⟩
  · rintro ⟨hne, hle, hrun⟩
    exact ⟨List.length_pos_of_ne_nil hne, hpos, hle, hloop.mpr hrun⟩

end Agree

/-- In a packet list with distinct paths, an entry with a path and a commitment is the first entry
with that path. -/
theorem exists_mem_iff_find? {l : List AttestationLightClient.PacketCompact} {k v : Bytes}
    (hnodup : (l.map (·.path)).Nodup) :
    (∃ q ∈ l, q.path = k ∧ q.commitment = v) ↔ ∃ q, l.find? (fun q => q.path = k) = some q ∧ q.commitment = v := by
  constructor
  · rintro ⟨q, hq, hpath, hcommit⟩
    cases hfind : l.find? (fun q => q.path = k) with
    | none =>
      have := List.find?_eq_none.mp hfind q hq
      simp [hpath] at this
    | some q' =>
      -- the first entry with the path is `q` itself
      have hq' := List.mem_of_find?_eq_some hfind
      have hpath' : q'.path = k := by simpa using List.find?_some hfind
      have hsame : q' = q := List.inj_on_of_nodup_map hnodup hq' hq (hpath'.trans hpath.symm)
      exact ⟨q', rfl, hsame ▸ hcommit⟩
  · rintro ⟨q, hfind, hcommit⟩
    exact ⟨q, List.mem_of_find?_eq_some hfind, by simpa using List.find?_some hfind, hcommit⟩

/-- One packet query put to both clients: one attestor configuration (the zero address not among
the attestors), a live client with the same non-zero timestamp at the height `h > 0` on each side,
the same attestation data and signatures in each side's proof encoding, decoding on both sides to
a packet attestation for `h`, and 65-byte signatures that recover to the same signer on both
sides. -/
structure SameQuery (XE : AttestationLightClient.Externals) (XS : Attestation.Externals) (H : Hashes)
    (e : AttestationLightClient.State) (s : Attestation.State) (cs : Attestation.ClientState) (h ts : UInt64)
    (proofE proofS data : Bytes) (sigs : List Bytes) (pa : AttestationLightClient.PacketAttestation) : Prop where
  attestors : ∀ a, e.isAttestor a = true ↔ addressBytes a ∈ cs.attestorAddresses
  zero_not_attestor : Attestation.zeroAddress ∉ cs.attestorAddresses
  threshold : e.clientState.minRequiredSigs = cs.minRequiredSigs
  threshold_pos : cs.minRequiredSigs ≠ 0
  height_pos : 0 < h
  timestamp_ne : ts ≠ 0
  liveE : e.clientState.isFrozen = false
  storedE : e.consensusTimestampAtHeight h = ts
  clientS : s.clientState = some cs
  liveS : cs.isFrozen = false
  storedS : s.consensusStates h = some ⟨h, ts⟩
  decodeProofE : XE.decodeAttestationProof proofE = some ⟨data, sigs⟩
  proofS_size : proofS.length ≤ Attestation.maxProofSize
  decodeProofS : XS.decodeMembershipProof proofS = some ⟨data, sigs⟩
  decodePacketsE : XE.decodePacketAttestation data = some pa
  decodePacketsS : XS.decodePacketAttestation data = some pa
  packets_height : pa.height = h
  recover : ∀ sig ∈ sigs, sig.length = 65 ∧ (XE.recover (Attestation.taggedSigningInput H data .Packet) sig).map
    addressBytes = (Attestation.recoverEthAddress XS H (Attestation.taggedSigningInput H data .Packet) sig).toOption

namespace SameQuery

variable {XE : AttestationLightClient.Externals} {XS : Attestation.Externals} {H : Hashes}
  {e : AttestationLightClient.State} {s : Attestation.State} {cs : Attestation.ClientState} {h ts : UInt64}
  {proofE proofS data : Bytes} {sigs : List Bytes} {pa : AttestationLightClient.PacketAttestation}
  (hq : SameQuery XE XS H e s cs h ts proofE proofS data sigs pa)
include hq

/-- The contract's membership answer, with its signature check put as the program's. -/
theorem contract_membership_iff {revisionNumber : UInt64} {path v : Bytes} (hdecode : XE.decodeBytes32 v = some v)
    (hne : v ≠ []) :
    (∃ t, AttestationLightClient.verifyMembership XE H e true ⟨proofE, ⟨revisionNumber, h⟩, [path], v⟩ = .ok t) ↔
      Attestation.verifyAttestation XS H cs data sigs .Packet = .ok () ∧ pa.packets ≠ [] ∧
        ∃ q ∈ pa.packets, q.path = H.keccak256 path ∧ q.commitment = v := by
  have hts : e.consensusTimestampAtHeight h ≠ 0 := by rw [hq.storedE]; exact hq.timestamp_ne
  rw [AttestationLightClient.verifyMembership_ok_iff hq.liveE hts hq.decodeProofE hq.decodePacketsE hq.packets_height
    hdecode hne, signatureChecks_agree hq.attestors hq.zero_not_attestor hq.threshold hq.threshold_pos hq.recover]

/-- The contract's non-membership answer, with its signature check put as the program's. -/
theorem contract_nonMembership_iff {revisionNumber : UInt64} {path : Bytes} :
    (∃ t, AttestationLightClient.verifyNonMembership XE H e true ⟨proofE, ⟨revisionNumber, h⟩, [path]⟩ = .ok t) ↔
      Attestation.verifyAttestation XS H cs data sigs .Packet = .ok () ∧ pa.packets ≠ [] ∧
        ∃ q, pa.packets.find? (fun q => q.path = H.keccak256 path) = some q ∧ q.commitment = zeroWord := by
  have hts : e.consensusTimestampAtHeight h ≠ 0 := by rw [hq.storedE]; exact hq.timestamp_ne
  rw [AttestationLightClient.verifyNonMembership_ok_iff hq.liveE hts hq.decodeProofE hq.decodePacketsE
    hq.packets_height, signatureChecks_agree hq.attestors hq.zero_not_attestor hq.threshold hq.threshold_pos hq.recover]

/-- The program's membership answer for a 32-byte word. -/
theorem program_membership_iff {path v : Bytes} (hv : v.length = 32) :
    Attestation.verifyMembership XS H s ⟨h, proofS, [path], v⟩ = .ok () ↔
      Attestation.verifyAttestation XS H cs data sigs .Packet = .ok () ∧ pa.packets ≠ [] ∧
        ∃ q, pa.packets.find? (fun q => q.path = H.keccak256 path) = some q ∧ q.commitment ≠ zeroWord ∧
          q.commitment = v :=
  Attestation.verifyMembership_ok_iff hq.clientS hq.liveS hq.storedS hq.timestamp_ne hq.height_pos hq.proofS_size
    hq.decodeProofS hq.decodePacketsS hq.packets_height hv

/-- The program's non-membership answer: it succeeds with the stored timestamp or not at all. -/
theorem program_nonMembership_iff {path : Bytes} {t : UInt64} :
    Attestation.verifyNonMembership XS H s ⟨h, proofS, [path]⟩ = .ok t ↔
      Attestation.verifyAttestation XS H cs data sigs .Packet = .ok () ∧ pa.packets ≠ [] ∧
        (∃ q, pa.packets.find? (fun q => q.path = H.keccak256 path) = some q ∧ q.commitment = zeroWord) ∧ t = ts :=
  Attestation.verifyNonMembership_ok_iff hq.clientS hq.liveS hq.storedS hq.timestamp_ne hq.height_pos hq.proofS_size
    hq.decodeProofS hq.decodePacketsS hq.packets_height

end SameQuery

/-- **The two clients' packet answers.** For one query put to both clients: non-membership holds on
one side exactly when it holds on the other; membership of a non-zero 32-byte word holds on one
side exactly when it holds on the other, provided the attested entries have distinct paths. The
program answers from the first attested entry for the path's hash: membership of `v` when its
commitment is `v` and `v` is not zero, non-membership when its commitment is zero; so no path is
both a member and a non-member, and at most one word is a member. -/
theorem attestation_membership_agree {XE : AttestationLightClient.Externals} {XS : Attestation.Externals} {H : Hashes}
    {e : AttestationLightClient.State} {s : Attestation.State} {cs : Attestation.ClientState} {h ts : UInt64}
    {proofE proofS data : Bytes} {sigs : List Bytes} {pa : AttestationLightClient.PacketAttestation}
    (hq : SameQuery XE XS H e s cs h ts proofE proofS data sigs pa) {revisionNumber : UInt64} {path v : Bytes}
    (hv : v.length = 32) (hdecode : XE.decodeBytes32 v = some v) :
    (v ≠ zeroWord → (pa.packets.map (·.path)).Nodup →
      ((∃ t, AttestationLightClient.verifyMembership XE H e true ⟨proofE, ⟨revisionNumber, h⟩, [path], v⟩ = .ok t) ↔
        Attestation.verifyMembership XS H s ⟨h, proofS, [path], v⟩ = .ok ())) ∧
    ((∃ t, AttestationLightClient.verifyNonMembership XE H e true ⟨proofE, ⟨revisionNumber, h⟩, [path]⟩ = .ok t) ↔
      ∃ t, Attestation.verifyNonMembership XS H s ⟨h, proofS, [path]⟩ = .ok t) ∧
    (Attestation.verifyMembership XS H s ⟨h, proofS, [path], v⟩ = .ok () ↔
      Attestation.verifyAttestation XS H cs data sigs .Packet = .ok () ∧ pa.packets ≠ [] ∧
        ∃ q, pa.packets.find? (fun q => q.path = H.keccak256 path) = some q ∧ q.commitment = v ∧ v ≠ zeroWord) ∧
    ((∃ t, Attestation.verifyNonMembership XS H s ⟨h, proofS, [path]⟩ = .ok t) ↔
      Attestation.verifyAttestation XS H cs data sigs .Packet = .ok () ∧ pa.packets ≠ [] ∧
        ∃ q, pa.packets.find? (fun q => q.path = H.keccak256 path) = some q ∧ q.commitment = zeroWord) ∧
    ¬ (Attestation.verifyMembership XS H s ⟨h, proofS, [path], v⟩ = .ok () ∧
      ∃ t, Attestation.verifyNonMembership XS H s ⟨h, proofS, [path]⟩ = .ok t) ∧
    ∀ v', v'.length = 32 → Attestation.verifyMembership XS H s ⟨h, proofS, [path], v'⟩ = .ok () →
      Attestation.verifyMembership XS H s ⟨h, proofS, [path], v⟩ = .ok () → v' = v := by
  have hne : v ≠ [] := fun h0 => by simp [h0] at hv
  -- the program's non-membership, with its timestamp left out
  have hnonS : (∃ t, Attestation.verifyNonMembership XS H s ⟨h, proofS, [path]⟩ = .ok t) ↔
      Attestation.verifyAttestation XS H cs data sigs .Packet = .ok () ∧ pa.packets ≠ [] ∧
        ∃ q, pa.packets.find? (fun q => q.path = H.keccak256 path) = some q ∧ q.commitment = zeroWord := by
    constructor
    · rintro ⟨t, ht⟩
      obtain ⟨hs, hnonempty, hfirst, -⟩ := hq.program_nonMembership_iff.mp ht
      exact ⟨hs, hnonempty, hfirst⟩
    · rintro ⟨hs, hnonempty, hfirst⟩
      exact ⟨ts, hq.program_nonMembership_iff.mpr ⟨hs, hnonempty, hfirst, rfl⟩⟩
  refine ⟨fun hnz hnodup => ?_, ?_, ?_, hnonS, ?_, ?_⟩
  · -- the contract's "some entry with the path and the word" is the program's "first entry for
    -- the path" once the paths are distinct
    rw [hq.contract_membership_iff hdecode hne, hq.program_membership_iff hv, exists_mem_iff_find? hnodup]
    constructor
    · rintro ⟨hs, hnonempty, q, hfind, hcommit⟩
      exact ⟨hs, hnonempty, q, hfind, hcommit ▸ hnz, hcommit⟩
    · rintro ⟨hs, hnonempty, q, hfind, -, hcommit⟩
      exact ⟨hs, hnonempty, q, hfind, hcommit⟩
  · rw [hq.contract_nonMembership_iff, hnonS]
  · rw [hq.program_membership_iff hv]
    constructor
    · rintro ⟨hs, hnonempty, q, hfind, hnz, hcommit⟩
      exact ⟨hs, hnonempty, q, hfind, hcommit, hcommit ▸ hnz⟩
    · rintro ⟨hs, hnonempty, q, hfind, hcommit, hnz⟩
      exact ⟨hs, hnonempty, q, hfind, hcommit ▸ hnz, hcommit⟩
  · -- the first entry for the path cannot carry both a non-zero and the zero commitment
    rintro ⟨hmem, hnon⟩
    obtain ⟨-, -, q, hfind, hnz, -⟩ := (hq.program_membership_iff hv).mp hmem
    obtain ⟨-, -, q', hfind', hzero⟩ := hnonS.mp hnon
    rw [hfind, Option.some.injEq] at hfind'
    subst hfind'
    exact hnz hzero
  · intro v' hv' hmem' hmem
    obtain ⟨-, -, q, hfind, -, hcommit⟩ := (hq.program_membership_iff hv).mp hmem
    obtain ⟨-, -, q', hfind', -, hcommit'⟩ := (hq.program_membership_iff hv').mp hmem'
    rw [hfind, Option.some.injEq] at hfind'
    subst hfind'
    rw [← hcommit, ← hcommit']

/-- The contract's externals for a sample query: one 65-byte signature over empty data, recovered to
the address `1`, and a packet attestation for height 5. -/
def sampleContract (packets : List AttestationLightClient.PacketCompact) : AttestationLightClient.Externals :=
  ⟨fun _ _ => some 1, fun _ => some ⟨[], [List.replicate 65 0]⟩, fun _ => none, fun _ => some ⟨5, packets⟩, some⟩

/-- The program's externals for the same query. -/
def sampleProgram (packets : List AttestationLightClient.PacketCompact) : Attestation.Externals :=
  ⟨fun _ => some ⟨[], [List.replicate 65 0]⟩, fun _ => none, fun _ => some ⟨5, packets⟩, fun _ _ _ => some []⟩

/-- The contract with the address `1` as its only attestor and time 7 stored at height 5. -/
def sampleContractState : AttestationLightClient.State :=
  ⟨⟨[1], 1, 5, false⟩, Function.update (fun _ => false) 1 true, Function.update (fun _ => 0) 5 7⟩

/-- The program's client state with the same attestor. -/
def sampleClientState : Attestation.ClientState := ⟨[addressBytes 1], 1, 5, false⟩

/-- The program with that client state and time 7 stored at height 5. -/
def sampleProgramState : Attestation.State := ⟨some sampleClientState, some [1], fun _ => some ⟨5, 7⟩⟩

theorem sampleQuery (packets : List AttestationLightClient.PacketCompact) :
    SameQuery (sampleContract packets) (sampleProgram packets) oneKeccak sampleContractState sampleProgramState
      sampleClientState 5 7 [] [] [] [List.replicate 65 0] ⟨5, packets⟩ where
  attestors a := by
    simp [sampleContractState, sampleClientState, Function.update_apply, addressBytes_injective.eq_iff]
  zero_not_attestor := by decide
  threshold := rfl
  threshold_pos := by decide
  height_pos := by decide
  timestamp_ne := by decide
  liveE := rfl
  storedE := rfl
  clientS := rfl
  liveS := rfl
  storedS := rfl
  decodeProofE := rfl
  proofS_size := by decide
  decodeProofS := rfl
  decodePacketsE := rfl
  decodePacketsS := rfl
  packets_height := rfl
  recover sig hsig := by
    rw [List.mem_singleton] at hsig
    subst hsig
    exact ⟨rfl, rfl⟩

theorem attestation_membership_agree_sample :
    (Bytes.be 32 2 ≠ zeroWord →
      (List.map (fun q : AttestationLightClient.PacketCompact => q.path) [⟨Bytes.be 32 1, Bytes.be 32 2⟩]).Nodup →
      ((∃ t, AttestationLightClient.verifyMembership (sampleContract [⟨Bytes.be 32 1, Bytes.be 32 2⟩]) oneKeccak
          sampleContractState true ⟨[], ⟨0, 5⟩, [[]], Bytes.be 32 2⟩ = .ok t) ↔
        Attestation.verifyMembership (sampleProgram [⟨Bytes.be 32 1, Bytes.be 32 2⟩]) oneKeccak sampleProgramState
          ⟨5, [], [[]], Bytes.be 32 2⟩ = .ok ())) ∧
    ((∃ t, AttestationLightClient.verifyNonMembership (sampleContract [⟨Bytes.be 32 1, Bytes.be 32 2⟩]) oneKeccak
        sampleContractState true ⟨[], ⟨0, 5⟩, [[]]⟩ = .ok t) ↔
      ∃ t, Attestation.verifyNonMembership (sampleProgram [⟨Bytes.be 32 1, Bytes.be 32 2⟩]) oneKeccak
        sampleProgramState ⟨5, [], [[]]⟩ = .ok t) ∧
    (Attestation.verifyMembership (sampleProgram [⟨Bytes.be 32 1, Bytes.be 32 2⟩]) oneKeccak sampleProgramState
        ⟨5, [], [[]], Bytes.be 32 2⟩ = .ok () ↔
      Attestation.verifyAttestation (sampleProgram [⟨Bytes.be 32 1, Bytes.be 32 2⟩]) oneKeccak sampleClientState []
          [List.replicate 65 0] .Packet = .ok () ∧ ([⟨Bytes.be 32 1, Bytes.be 32 2⟩] : List AttestationLightClient.PacketCompact) ≠ [] ∧
        ∃ q, ([⟨Bytes.be 32 1, Bytes.be 32 2⟩] : List AttestationLightClient.PacketCompact).find?
          (fun q => q.path = oneKeccak.keccak256 []) = some q ∧ q.commitment = Bytes.be 32 2 ∧ Bytes.be 32 2 ≠ zeroWord) ∧
    ((∃ t, Attestation.verifyNonMembership (sampleProgram [⟨Bytes.be 32 1, Bytes.be 32 2⟩]) oneKeccak
        sampleProgramState ⟨5, [], [[]]⟩ = .ok t) ↔
      Attestation.verifyAttestation (sampleProgram [⟨Bytes.be 32 1, Bytes.be 32 2⟩]) oneKeccak sampleClientState []
          [List.replicate 65 0] .Packet = .ok () ∧ ([⟨Bytes.be 32 1, Bytes.be 32 2⟩] : List AttestationLightClient.PacketCompact) ≠ [] ∧
        ∃ q, ([⟨Bytes.be 32 1, Bytes.be 32 2⟩] : List AttestationLightClient.PacketCompact).find?
          (fun q => q.path = oneKeccak.keccak256 []) = some q ∧ q.commitment = zeroWord) ∧
    ¬ (Attestation.verifyMembership (sampleProgram [⟨Bytes.be 32 1, Bytes.be 32 2⟩]) oneKeccak sampleProgramState
        ⟨5, [], [[]], Bytes.be 32 2⟩ = .ok () ∧
      ∃ t, Attestation.verifyNonMembership (sampleProgram [⟨Bytes.be 32 1, Bytes.be 32 2⟩]) oneKeccak
        sampleProgramState ⟨5, [], [[]]⟩ = .ok t) ∧
    ∀ v', v'.length = 32 → Attestation.verifyMembership (sampleProgram [⟨Bytes.be 32 1, Bytes.be 32 2⟩]) oneKeccak
        sampleProgramState ⟨5, [], [[]], v'⟩ = .ok () →
      Attestation.verifyMembership (sampleProgram [⟨Bytes.be 32 1, Bytes.be 32 2⟩]) oneKeccak sampleProgramState
        ⟨5, [], [[]], Bytes.be 32 2⟩ = .ok () → v' = Bytes.be 32 2 :=
  attestation_membership_agree (sampleQuery _) (by decide : (Bytes.be 32 2).length = 32) rfl

/-- **A zero word is a member on Ethereum only.** For an attested entry of the path with the zero
commitment, the contract proves the zero word a member of the path and proves the path absent,
while the program rejects the membership. -/
theorem zero_value_member_on_contract_only :
    SameQuery (sampleContract [⟨Bytes.be 32 1, zeroWord⟩]) (sampleProgram [⟨Bytes.be 32 1, zeroWord⟩]) oneKeccak
        sampleContractState sampleProgramState sampleClientState 5 7 [] [] [] [List.replicate 65 0]
        ⟨5, [⟨Bytes.be 32 1, zeroWord⟩]⟩ ∧
      AttestationLightClient.verifyMembership (sampleContract [⟨Bytes.be 32 1, zeroWord⟩]) oneKeccak
        sampleContractState true ⟨[], ⟨0, 5⟩, [[]], zeroWord⟩ = .ok 7 ∧
      AttestationLightClient.verifyNonMembership (sampleContract [⟨Bytes.be 32 1, zeroWord⟩]) oneKeccak
        sampleContractState true ⟨[], ⟨0, 5⟩, [[]]⟩ = .ok 7 ∧
      Attestation.verifyMembership (sampleProgram [⟨Bytes.be 32 1, zeroWord⟩]) oneKeccak sampleProgramState
        ⟨5, [], [[]], zeroWord⟩ ≠ .ok () :=
  ⟨sampleQuery _, by decide, by decide, by decide⟩

end CrossChain
