/-
# The Solana Tendermint client's state along its runs

What each instruction does to the client state and the consensus-state
stores: the chunk uploads, the cleanups and `pre_verify_signature` touch
neither (`Quiet`); `initialize` creates both; `assemble_and_submit_misbehaviour`
freezes the client; `assemble_and_update_client` stores a consensus state at
its target height through `store_consensus_state`.

From a light client whose updates land above the trusted height
(`LightClient.UpdatesAboveTrusted`), every reachable state satisfies
`ClientInv`: each store holds the height of its address, which is not zero,
and the latest height has a store. So a store, once there, never changes, and
a frozen client and its stores never change again. The latest height,
however, follows every successful update, also one below it: a header
verified against an older consensus state moves it back.

Key definitions: `Ics07Tendermint.Quiet`, `Ics07Tendermint.LightClient.UpdatesAboveTrusted`,
`Ics07Tendermint.ClientInv`, `Ics07Tendermint.Reachable`.
Key theorems: `Ics07Tendermint.assembleAndUpdateClient_ok`, `Ics07Tendermint.step_clientInv`,
`Ics07Tendermint.reachable_clientInv`, `Ics07Tendermint.step_store_kept`, `Ics07Tendermint.step_frozen`.
-/
import IbcEureka.Solana.Ics07.Program

namespace Ics07Tendermint

open Txn

variable {L : LightClient} {H : Hashes} {s s' : State} {evs : List UpdateResult}

/-- The client state and the stores are as they were. -/
def Quiet (s s' : State) : Prop := s'.clientState = s.clientState ∧ s'.consensusStates = s.consensusStates

theorem Quiet.refl (s : State) : Quiet s s := ⟨rfl, rfl⟩

theorem Quiet.trans {s₁ s₂ s₃ : State} (h₁ : Quiet s₁ s₂) (h₂ : Quiet s₂ s₃) : Quiet s₁ s₃ :=
  ⟨h₂.1.trans h₁.1, h₂.2.trans h₁.2⟩

/-! ## Chunks, cleanups and signatures -/

theorem uploadChunk_ok {hasRole : Bool} {chunkData : Bytes} {write : State → State}
    (h : uploadChunk s hasRole chunkData write = .ok (s', evs)) (hw : ∀ s, Quiet s (write s)) :
    Quiet s s' ∧ evs = [] := by
  simp only [uploadChunk, bind_eq_ok, require_eq_ok, exists_const, pure_eq_ok, Prod.mk.injEq] at h
  obtain ⟨_, -, _, -, -, -, -, rfl, rfl⟩ := h
  exact ⟨hw s, rfl⟩

theorem uploadHeaderChunk_ok {submitter : Bytes} {hasRole : Bool} {params : UploadChunkParams}
    (h : uploadHeaderChunk s submitter hasRole params = .ok (s', evs)) : Quiet s s' ∧ evs = [] :=
  uploadChunk_ok h fun _ => ⟨rfl, rfl⟩

theorem uploadMisbehaviourChunk_ok {submitter : Bytes} {hasRole : Bool} {params : UploadMisbehaviourChunkParams}
    (h : uploadMisbehaviourChunk s submitter hasRole params = .ok (s', evs)) : Quiet s s' ∧ evs = [] :=
  uploadChunk_ok h fun _ => ⟨rfl, rfl⟩

theorem cleanupUploadAccount_quiet (submitter : Bytes) (s : State) (account : AccountRef) :
    Quiet s (cleanupUploadAccount submitter s account) := by
  unfold cleanupUploadAccount
  split
  · split
    · split <;> exact ⟨rfl, rfl⟩
    · exact Quiet.refl s
  · split
    · split <;> exact ⟨rfl, rfl⟩
    · exact Quiet.refl s
  · exact Quiet.refl s

theorem foldl_cleanupUploadAccount_quiet (submitter : Bytes) :
    ∀ (remaining : List AccountRef) (s : State), Quiet s (remaining.foldl (cleanupUploadAccount submitter) s)
  | [], s => Quiet.refl s
  | a :: rest, s =>
    (cleanupUploadAccount_quiet submitter s a).trans (foldl_cleanupUploadAccount_quiet submitter rest _)

theorem cleanupMisbehaviourAccounts_quiet (submitter : Bytes) :
    ∀ (index : ℕ) (remaining : List AccountRef) (s : State),
      Quiet s (cleanupMisbehaviourAccounts submitter index remaining s)
  | _, [], s => Quiet.refl s
  | index, a :: rest, s => by
    have hone : Quiet s (if a = .misbehaviourChunk submitter (UInt8.ofNat index) then
        s.setMisbehaviourChunk (submitter, UInt8.ofNat index) none else s) := by
      split
      · exact ⟨rfl, rfl⟩
      · exact Quiet.refl s
    exact hone.trans (cleanupMisbehaviourAccounts_quiet submitter (index + 1) rest _)

theorem cleanupChunks_quiet {submitter : Bytes} :
    ∀ {index : ℕ} {remaining : List AccountRef} {s s' : State}, cleanupChunks submitter index remaining s = .ok s' →
      Quiet s s'
  | _, [], s, s', h => by
    obtain rfl : s = s' := Except.ok.inj h
    exact Quiet.refl s
  | index, a :: rest, s, s', h => by
    simp only [cleanupChunks, bind_eq_ok, require_eq_ok, exists_const] at h
    obtain ⟨-, -, h⟩ := h
    have hclose : Quiet s (s.setMisbehaviourChunk (submitter, UInt8.ofNat index) none) := ⟨rfl, rfl⟩
    exact hclose.trans (cleanupChunks_quiet h)

theorem preVerifySignature_ok {submitter : Bytes} {hasRole : Bool} {signature : SignatureData} {ed25519Valid : Bool}
    (h : preVerifySignature H s submitter hasRole signature ed25519Valid = .ok (s', evs)) : Quiet s s' ∧ evs = [] := by
  simp only [preVerifySignature, bind_eq_ok, require_eq_ok, exists_const, pure_eq_ok, Prod.mk.injEq] at h
  obtain ⟨-, _, -, -, -, rfl, rfl⟩ := h
  exact ⟨⟨rfl, rfl⟩, rfl⟩

/-! ## Creating, freezing and updating the client -/

theorem initializeClient_ok {isUpgradeAuthority : Bool} {cs : ClientState} {consensusState : ConsensusState}
    {accessManager : Bytes} (h : initializeClient s isUpgradeAuthority cs consensusState accessManager = .ok (s', evs)) :
    s.clientState = none ∧ s.consensusStates cs.latestHeight.revisionHeight = none ∧ 0 < cs.latestHeight.revisionHeight ∧
      s'.clientState = some cs ∧ s'.consensusStates = Function.update s.consensusStates cs.latestHeight.revisionHeight
        (some ⟨cs.latestHeight.revisionHeight, consensusState⟩) ∧ evs = [] := by
  simp only [initializeClient, bind_eq_ok, require_eq_ok, exists_const, pure_eq_ok, Prod.mk.injEq] at h
  obtain ⟨hcs, hstore, -, -, -, -, -, -, -, hpos, rfl, rfl⟩ := h
  exact ⟨hcs, hstore, hpos, rfl, rfl, rfl⟩

theorem assembleAndSubmitMisbehaviour_ok {submitter : Bytes} {hasRole : Bool} {chunkCount : UInt8}
    {trustedHeight1 trustedHeight2 : UInt64} {remaining : List AccountRef} {unixTimestamp : Int}
    (h : assembleAndSubmitMisbehaviour L s submitter hasRole chunkCount trustedHeight1 trustedHeight2 remaining
      unixTimestamp = .ok (s', evs)) :
    ∃ cs, s.clientState = some cs ∧ cs.isFrozen = false ∧ s'.clientState = some cs.freeze ∧
      s'.consensusStates = s.consensusStates ∧ evs = [] := by
  simp only [assembleAndSubmitMisbehaviour, loadClientState, bind_eq_ok, require_eq_ok, expect_eq_ok, exists_const,
    pure_eq_ok, Prod.mk.injEq] at h
  obtain ⟨cs, hcs, _, -, _, -, _, -, -, hlive, -, _, -, _, -, s'', hclean, rfl, rfl⟩ := h
  have hq := cleanupChunks_quiet hclean
  exact ⟨cs, hcs, hlive, hq.1, hq.2, rfl⟩

theorem verifyAndUpdateHeader_ok {cs : ClientState} {trustedState : ConsensusState} {header : L.Header}
    {unixTimestamp : Int} {verified : IbcHeight × ConsensusState}
    (h : verifyAndUpdateHeader L cs trustedState header unixTimestamp = .ok verified) :
    ∃ currentTime, L.updateClient cs trustedState header currentTime = some (verified.1, some verified.2) := by
  simp only [verifyAndUpdateHeader, bind_eq_ok, expect_eq_ok, pure_eq_ok] at h
  obtain ⟨_, -, currentTime, -, ⟨newHeight, converted⟩, hout, newConsensusState, hconv, rfl⟩ := h
  subst hconv
  exact ⟨currentTime, hout⟩

theorem processHeaderUpdate_ok {cs : ClientState} {trusted store : ConsensusStateStore} {headerBytes : Bytes}
    {targetHeight trustedHeight : UInt64} {unixTimestamp : Int}
    {updated : ConsensusStateStore × ClientState × UpdateResult}
    (h : processHeaderUpdate L cs trusted store headerBytes targetHeight trustedHeight unixTimestamp = .ok updated) :
    ∃ header newHeight newConsensusState currentTime,
      (L.trustedHeight header).revisionHeight = trustedHeight ∧
      L.updateClient cs trusted.consensusState header currentTime = some (newHeight, some newConsensusState) ∧
      newHeight.revisionHeight = targetHeight ∧
      ∃ stored, stored = storeConsensusState store targetHeight newConsensusState trusted.consensusState cs ∧
        updated = (stored.1, updateLatestHeight stored.2.1 stored.2.2 newHeight, stored.2.2) := by
  simp only [processHeaderUpdate, bind_eq_ok, require_eq_ok, expect_eq_ok, exists_const, pure_eq_ok] at h
  obtain ⟨header, -, htrusted, verified, hverify, htarget, rfl⟩ := h
  obtain ⟨currentTime, hout⟩ := verifyAndUpdateHeader_ok hverify
  refine ⟨header, verified.1, verified.2, currentTime, htrusted, hout, htarget, _, rfl, ?_⟩
  rw [htarget]

theorem assembleAndUpdateClient_ok {submitter : Bytes} {hasRole : Bool} {targetHeight : UInt64} {chunkCount : UInt8}
    {trustedHeight : UInt64} {remaining : List AccountRef} {unixTimestamp : Int}
    (h : assembleAndUpdateClient L s submitter hasRole targetHeight chunkCount trustedHeight remaining unixTimestamp =
      .ok (s', evs)) :
    ∃ cs trusted headerBytes updated, s.clientState = some cs ∧ cs.isFrozen = false ∧
      s.consensusStates trustedHeight = some trusted ∧
      processHeaderUpdate L cs trusted ((s.consensusStates targetHeight).getD .zeroed) headerBytes targetHeight
        trustedHeight unixTimestamp = .ok updated ∧
      s'.clientState = some updated.2.1 ∧
      s'.consensusStates = Function.update s.consensusStates targetHeight (some updated.1) ∧ evs = [updated.2.2] := by
  simp only [assembleAndUpdateClient, loadClientState, loadConsensusStateStore, bind_eq_ok, require_eq_ok,
    expect_eq_ok, exists_const, pure_eq_ok, Prod.mk.injEq] at h
  obtain ⟨cs, hcs, _, -, trusted, htrusted, -, hlive, headerBytes, -, updated, hupdate, rfl, rfl⟩ := h
  exact ⟨cs, trusted, headerBytes, updated, hcs, hlive, htrusted, hupdate, rfl, rfl, rfl⟩

/-! ## The four changes -/

/-- What a successful instruction does to the client state and the stores. -/
inductive Change (L : LightClient) (s s' : State) : Prop
  /-- Neither changes. -/
  | quiet : Quiet s s' → Change L s s'
  /-- `initialize` creates the client and the store at its latest height. -/
  | create (cs : ClientState) (consensusState : ConsensusState) :
      s.clientState = none → s.consensusStates cs.latestHeight.revisionHeight = none →
      0 < cs.latestHeight.revisionHeight → s'.clientState = some cs →
      s'.consensusStates = Function.update s.consensusStates cs.latestHeight.revisionHeight
        (some ⟨cs.latestHeight.revisionHeight, consensusState⟩) → Change L s s'
  /-- Misbehaviour freezes a live client. -/
  | freeze (cs : ClientState) : s.clientState = some cs → cs.isFrozen = false →
      s'.clientState = some cs.freeze → s'.consensusStates = s.consensusStates → Change L s s'
  /-- A header verified against the store at its trusted height gives a new consensus state,
  stored at the new height by `store_consensus_state`. -/
  | update (cs : ClientState) (trusted : ConsensusStateStore) (header : L.Header) (newHeight : IbcHeight)
      (newConsensusState : ConsensusState) (currentTime : ℕ) (stored : ConsensusStateStore × ClientState × UpdateResult) :
      s.clientState = some cs → cs.isFrozen = false →
      s.consensusStates (L.trustedHeight header).revisionHeight = some trusted →
      L.updateClient cs trusted.consensusState header currentTime = some (newHeight, some newConsensusState) →
      stored = storeConsensusState ((s.consensusStates newHeight.revisionHeight).getD .zeroed) newHeight.revisionHeight
        newConsensusState trusted.consensusState cs →
      s'.clientState = some (updateLatestHeight stored.2.1 stored.2.2 newHeight) →
      s'.consensusStates = Function.update s.consensusStates newHeight.revisionHeight (some stored.1) → Change L s s'

theorem assembleAndUpdateClient_change {submitter : Bytes} {hasRole : Bool} {targetHeight : UInt64}
    {chunkCount : UInt8} {trustedHeight : UInt64} {remaining : List AccountRef} {unixTimestamp : Int}
    (h : assembleAndUpdateClient L s submitter hasRole targetHeight chunkCount trustedHeight remaining unixTimestamp =
      .ok (s', evs)) : Change L s s' := by
  obtain ⟨cs, trusted, headerBytes, updated, hcs, hlive, htrusted, hupdate, hclient, hstores, -⟩ :=
    assembleAndUpdateClient_ok h
  obtain ⟨header, newHeight, newConsensusState, currentTime, hth, hout, rfl, stored, hstored, rfl⟩ :=
    processHeaderUpdate_ok hupdate
  rw [← hth] at htrusted
  exact .update cs trusted header newHeight newConsensusState currentTime stored hcs hlive htrusted hout hstored
    hclient hstores

/-- Every successful instruction makes one of the four changes. -/
theorem step_change {i : Instruction} (h : step L H s i = .ok (s', evs)) : Change L s s' := by
  cases i with
  | initializeClient isUpgradeAuthority cs consensusState accessManager =>
    obtain ⟨hnone, hstore, hpos, hcs, hstores, -⟩ := initializeClient_ok h
    exact .create cs consensusState hnone hstore hpos hcs hstores
  | uploadHeaderChunk submitter hasRole params => exact .quiet (uploadHeaderChunk_ok h).1
  | assembleAndUpdateClient submitter hasRole targetHeight chunkCount trustedHeight remaining unixTimestamp =>
    exact assembleAndUpdateClient_change h
  | cleanupIncompleteUpload submitter remaining =>
    obtain rfl : s' = remaining.foldl (cleanupUploadAccount submitter) s := (Prod.mk.inj (Except.ok.inj h)).1.symm
    exact .quiet (foldl_cleanupUploadAccount_quiet submitter remaining s)
  | uploadMisbehaviourChunk submitter hasRole params => exact .quiet (uploadMisbehaviourChunk_ok h).1
  | assembleAndSubmitMisbehaviour submitter hasRole chunkCount trustedHeight1 trustedHeight2 remaining unixTimestamp =>
    obtain ⟨cs, hcs, hlive, hfrozen, hstores, -⟩ := assembleAndSubmitMisbehaviour_ok h
    exact .freeze cs hcs hlive hfrozen hstores
  | cleanupIncompleteMisbehaviour submitter remaining =>
    obtain rfl : s' = cleanupMisbehaviourAccounts submitter 0 remaining s := (Prod.mk.inj (Except.ok.inj h)).1.symm
    exact .quiet (cleanupMisbehaviourAccounts_quiet submitter 0 remaining s)
  | preVerifySignature submitter hasRole signature ed25519Valid =>
    exact .quiet (preVerifySignature_ok h).1

/-! ## Storing a consensus state -/

theorem ne_zero_of_lt {a b : UInt64} (h : a < b) : b ≠ 0 := by
  have hlt := UInt64.lt_iff_toNat_lt.mp h
  intro hb
  rw [hb, UInt64.toNat_zero] at hlt
  omega

/-- On a store already there, `store_consensus_state` keeps the store and does not report a
success; the client is kept or frozen. -/
theorem storeConsensusState_of_initialized {store : ConsensusStateStore} (hst : store.height ≠ 0) (height : UInt64)
    (newConsensusState trustedConsensusState : ConsensusState) (cs : ClientState) :
    (storeConsensusState store height newConsensusState trustedConsensusState cs).1 = store ∧
      (storeConsensusState store height newConsensusState trustedConsensusState cs).2.2 ≠ .UpdateSuccess ∧
      ((storeConsensusState store height newConsensusState trustedConsensusState cs).2.1 = cs ∨
        (storeConsensusState store height newConsensusState trustedConsensusState cs).2.1 = cs.freeze) := by
  have hinit : store.isUninitialized = false := by simpa [ConsensusStateStore.isUninitialized] using hst
  unfold storeConsensusState
  rw [hinit, Bool.not_false, if_pos rfl]
  split <;> simp

/-- On a fresh store, `store_consensus_state` writes the new consensus state at the height. -/
theorem storeConsensusState_of_uninitialized {store : ConsensusStateStore} (hst : store.height = 0) (height : UInt64)
    (newConsensusState trustedConsensusState : ConsensusState) (cs : ClientState) :
    storeConsensusState store height newConsensusState trustedConsensusState cs =
      (⟨height, newConsensusState⟩, cs, .UpdateSuccess) := by
  have hinit : store.isUninitialized = true := by simpa [ConsensusStateStore.isUninitialized] using hst
  simp [storeConsensusState, hinit]

theorem updateLatestHeight_of_ne {cs : ClientState} {result : UpdateResult} (h : result ≠ .UpdateSuccess)
    (newHeight : IbcHeight) : updateLatestHeight cs result newHeight = cs := by
  simp [updateLatestHeight, h]

@[simp] theorem updateLatestHeight_updateSuccess (cs : ClientState) (newHeight : IbcHeight) :
    updateLatestHeight cs .UpdateSuccess newHeight = cs.setLatestHeight newHeight := rfl

/-! ## The invariant -/

/-- The modelling assumption on `update_client`: it accepts a header only for a height above the
header's trusted height. -/
def LightClient.UpdatesAboveTrusted (L : LightClient) : Prop :=
  ∀ cs trustedState header currentTime out, L.updateClient cs trustedState header currentTime = some out →
    (L.trustedHeight header).revisionHeight < out.1.revisionHeight

/-- What every reachable state satisfies. -/
structure ClientInv (s : State) : Prop where
  /-- Every store is initialized, at the height of its address. -/
  stores : ∀ h store, s.consensusStates h = some store → store.height = h ∧ h ≠ 0
  /-- The latest height is not zero and has a store. -/
  latest : ∀ cs, s.clientState = some cs →
    cs.latestHeight.revisionHeight ≠ 0 ∧ (s.consensusStates cs.latestHeight.revisionHeight).isSome

theorem clientInv_empty : ClientInv State.empty where
  stores _ _ h := by cases h
  latest _ h := by cases h

theorem ClientInv.stores_update (hinv : ClientInv s) {k : UInt64} (hk : k ≠ 0) (consensusState : ConsensusState) :
    ∀ h store, Function.update s.consensusStates k (some ⟨k, consensusState⟩) h = some store →
      store.height = h ∧ h ≠ 0 := by
  intro h store hs
  by_cases hh : h = k
  · subst hh
    rw [Function.update_self] at hs
    cases hs
    exact ⟨rfl, hk⟩
  · rw [Function.update_of_ne hh] at hs
    exact hinv.stores h store hs

/-- Every change keeps the invariant, given updates above the trusted height. -/
theorem change_clientInv (hL : L.UpdatesAboveTrusted) (hinv : ClientInv s) (hc : Change L s s') : ClientInv s' := by
  cases hc with
  | quiet hq =>
    obtain ⟨hcs, hstores⟩ := hq
    constructor
    · rw [hstores]
      exact hinv.stores
    · rw [hcs, hstores]
      exact hinv.latest
  | create cs consensusState hnone hstore hpos hcs hstores =>
    have hk : cs.latestHeight.revisionHeight ≠ 0 := ne_zero_of_lt hpos
    constructor
    · rw [hstores]
      exact hinv.stores_update hk consensusState
    · intro cs' hcs'
      rw [hcs] at hcs'
      obtain rfl := Option.some.inj hcs'
      rw [hstores, Function.update_self]
      exact ⟨hk, rfl⟩
  | freeze cs hcs hlive hfrozen hstores =>
    constructor
    · rw [hstores]
      exact hinv.stores
    · intro cs' hcs'
      rw [hfrozen] at hcs'
      obtain rfl := Option.some.inj hcs'
      rw [hstores]
      exact hinv.latest cs hcs
  | update cs trusted header newHeight newConsensusState currentTime stored hcs hlive htrusted hout hstored hclient
      hstores =>
    cases hst : s.consensusStates newHeight.revisionHeight with
    | some st =>
      -- a store already there is kept, and the client keeps its latest height
      obtain ⟨hheight, hne⟩ := hinv.stores _ st hst
      rw [hst, Option.getD_some] at hstored
      obtain ⟨hkeep, hnot, hcs'⟩ := storeConsensusState_of_initialized (by rw [hheight]; exact hne)
        newHeight.revisionHeight newConsensusState trusted.consensusState cs
      rw [← hstored] at hkeep hnot hcs'
      rw [updateLatestHeight_of_ne hnot] at hclient
      have hsame : s'.consensusStates = s.consensusStates := by
        rw [hstores, hkeep, ← hst, Function.update_eq_self]
      constructor
      · rw [hsame]
        exact hinv.stores
      · intro cs' hcs''
        rw [hclient] at hcs''
        obtain rfl := Option.some.inj hcs''
        rw [hsame]
        -- freezing keeps the latest height
        rcases hcs' with hkept | hfrozen <;> [rw [hkept]; rw [hfrozen]] <;> exact hinv.latest cs hcs
    | none =>
      -- a fresh store is written, and its height becomes the latest
      have hk : newHeight.revisionHeight ≠ 0 := ne_zero_of_lt (hL _ _ _ _ _ hout)
      rw [hst, Option.getD_none, storeConsensusState_of_uninitialized rfl] at hstored
      subst hstored
      constructor
      · rw [hstores]
        exact hinv.stores_update hk newConsensusState
      · intro cs' hcs'
        rw [hclient] at hcs'
        obtain rfl := Option.some.inj hcs'
        rw [hstores]
        simp [hk]

theorem step_clientInv (hL : L.UpdatesAboveTrusted) (hinv : ClientInv s) {i : Instruction}
    (h : step L H s i = .ok (s', evs)) : ClientInv s' :=
  change_clientInv hL hinv (step_change h)

/-- The states and logs the program reaches from no account at all. -/
def Reachable (L : LightClient) (H : Hashes) (s : State) (log : List UpdateResult) : Prop :=
  ∃ is, exec (step L H) (State.empty, []) is = (s, log)

/-- **The invariant holds along every run.** -/
theorem reachable_clientInv (hL : L.UpdatesAboveTrusted) {log : List UpdateResult} (hreach : Reachable L H s log) :
    ClientInv s := by
  obtain ⟨is, hexec⟩ := hreach
  have hrun := exec_induction (step L H) (fun s _ => ClientInv s)
    (fun _ _ _ _ _ hinv hok => step_clientInv hL hinv hok) is (State.empty, []) clientInv_empty
  rw [hexec] at hrun
  exact hrun

/-! ## Stores and frozen clients never change -/

/-- A store there before a change is still there, unchanged, after it. -/
theorem change_store_kept (hinv : ClientInv s) (hc : Change L s s') {h : UInt64} {st : ConsensusStateStore}
    (hs : s.consensusStates h = some st) : s'.consensusStates h = some st := by
  cases hc with
  | quiet hq =>
    rw [hq.2]
    exact hs
  | create cs consensusState hnone hstore hpos hcs hstores =>
    have hne : h ≠ cs.latestHeight.revisionHeight := by
      rintro rfl
      rw [hstore] at hs
      cases hs
    rw [hstores, Function.update_of_ne hne]
    exact hs
  | freeze cs hcs hlive hfrozen hstores =>
    rw [hstores]
    exact hs
  | update cs trusted header newHeight newConsensusState currentTime stored hcs hlive htrusted hout hstored hclient
      hstores =>
    rw [hstores]
    by_cases hh : h = newHeight.revisionHeight
    · -- the target store was there, so `store_consensus_state` keeps it
      subst hh
      obtain ⟨hheight, hne⟩ := hinv.stores _ st hs
      rw [hs, Option.getD_some] at hstored
      have hkeep := (storeConsensusState_of_initialized (by rw [hheight]; exact hne) newHeight.revisionHeight
        newConsensusState trusted.consensusState cs).1
      rw [← hstored] at hkeep
      rw [Function.update_self, hkeep]
    · rw [Function.update_of_ne hh]
      exact hs

/-- A frozen client and its stores do not change. -/
theorem change_frozen {cs : ClientState} (hcs : s.clientState = some cs) (hfrozen : cs.isFrozen = true)
    (hc : Change L s s') : Quiet s s' := by
  cases hc with
  | quiet hq => exact hq
  | create cs' consensusState hnone hstore hpos hcs' hstores =>
    rw [hcs] at hnone
    cases hnone
  | freeze cs' hcs' hlive hfrozen' hstores =>
    rw [hcs] at hcs'
    obtain rfl := Option.some.inj hcs'
    rw [hfrozen] at hlive
    cases hlive
  | update cs' trusted header newHeight newConsensusState currentTime stored hcs' hlive htrusted hout hstored hclient
      hstores =>
    rw [hcs] at hcs'
    obtain rfl := Option.some.inj hcs'
    rw [hfrozen] at hlive
    cases hlive

/-- **A store never changes.** Along every run from a reachable state, a store keeps its height and
its consensus state. -/
theorem run_store_kept (hL : L.UpdatesAboveTrusted) {log : List UpdateResult} (hreach : Reachable L H s log)
    (is : List Instruction) {h : UInt64} {st : ConsensusStateStore} (hs : s.consensusStates h = some st) :
    (exec (step L H) (s, log) is).1.consensusStates h = some st :=
  exec_rel (step L H) (fun s _ => ClientInv s) (fun s s' => s.consensusStates h = some st → s'.consensusStates h = some st)
    (fun _ _ _ _ _ hinv hok => step_clientInv hL hinv hok) (fun _ hs => hs) (fun _ _ _ hab hbc hs => hbc (hab hs))
    (fun _ _ _ _ _ hinv hok hs => change_store_kept hinv (step_change hok) hs) is (s, log)
    (reachable_clientInv hL hreach) hs

/-- **A frozen client stays as it is.** Along every run from a state whose client is frozen, neither
the client state nor any store changes. -/
theorem run_frozen {cs : ClientState} (hcs : s.clientState = some cs) (hfrozen : cs.isFrozen = true)
    {log : List UpdateResult} (is : List Instruction) : Quiet s (exec (step L H) (s, log) is).1 :=
  exec_rel (step L H) (fun s _ => s.clientState = some cs) Quiet
    (fun _ _ _ _ _ hs hok => (change_frozen hs hfrozen (step_change hok)).1.trans hs) Quiet.refl
    (fun _ _ _ hab hbc => hab.trans hbc) (fun _ _ _ _ _ hs hok => change_frozen hs hfrozen (step_change hok)) is
    (s, log) hcs

/-! ## The latest height moves back -/

/-- A light client for a concrete run: a header is two bytes, its trusted height and its new height
(revision 0); `update_client` accepts it when the new height is above the trusted one. -/
def twoByteClient : LightClient where
  Header := UInt8 × UInt8
  Misbehaviour := Unit
  deserializeHeader
    | [trusted, new] => some (trusted, new)
    | _ => none
  trustedHeight header := ⟨0, header.1.toUInt64⟩
  updateClient _ trustedState header _ :=
    if header.1 < header.2 then
      some (⟨0, header.2.toUInt64⟩, some ⟨trustedState.timestamp + 1, zeroWord, zeroWord⟩)
    else none
  deserializeMisbehaviour _ := none
  checkForMisbehaviour _ _ _ _ _ := none

theorem twoByteClient_updatesAboveTrusted : twoByteClient.UpdatesAboveTrusted := by
  intro cs trustedState header currentTime out h
  simp only [twoByteClient] at h
  split at h
  · cases h
    show header.1.toUInt64 < header.2.toUInt64
    exact UInt64.lt_iff_toNat_lt.mpr (by simpa using UInt8.lt_iff_toNat_lt.mp ‹header.1 < header.2›)
  · cases h

/-- `initialize` at height 10, a header for height 20 verified against height 10, then one for
height 15 verified against height 10 as well. -/
def backfillRun : List Instruction :=
  [.initializeClient true ⟨[1], 1, 3, 1, 2, 1, ⟨0, 0⟩, ⟨0, 10⟩⟩ ⟨100, zeroWord, zeroWord⟩ [1],
    .uploadHeaderChunk [2] true ⟨20, 0, [10, 20]⟩,
    .assembleAndUpdateClient [2] true 20 1 10 [.headerChunk [2] 20 0] 0,
    .uploadHeaderChunk [2] true ⟨15, 0, [10, 15]⟩,
    .assembleAndUpdateClient [2] true 15 1 10 [.headerChunk [2] 15 0] 0]

/-- Both updates of `backfillRun` succeed, and the second takes the latest height from 20 back
to 15. -/
theorem latestHeight_moves_back :
    twoByteClient.UpdatesAboveTrusted ∧
      (exec (step twoByteClient ⟨id, id⟩) (State.empty, []) (backfillRun.take 3)).2 = [.UpdateSuccess] ∧
      (exec (step twoByteClient ⟨id, id⟩) (State.empty, []) (backfillRun.take 3)).1.clientState.map
        ClientState.latestHeight = some ⟨0, 20⟩ ∧
      (exec (step twoByteClient ⟨id, id⟩) (State.empty, []) backfillRun).2 = [.UpdateSuccess, .UpdateSuccess] ∧
      (exec (step twoByteClient ⟨id, id⟩) (State.empty, []) backfillRun).1.clientState.map
        ClientState.latestHeight = some ⟨0, 15⟩ :=
  ⟨twoByteClient_updatesAboveTrusted, by decide, by decide, by decide, by decide⟩

/-! ## What holds of every reachable state -/

/-- **The client-state invariant, but for the latest height.** In every state reached from no
account, every store sits at its own non-zero height and the latest height has one; along every
later run a store keeps its height and its consensus state; and once the client is frozen, no
later run changes the client state or any store. -/
theorem reachable_client_invariant (hL : L.UpdatesAboveTrusted) {log : List UpdateResult}
    (hreach : Reachable L H s log) :
    ClientInv s ∧
      (∀ is h st, s.consensusStates h = some st → (exec (step L H) (s, log) is).1.consensusStates h = some st) ∧
      ∀ cs, s.clientState = some cs → cs.isFrozen = true → ∀ is, Quiet s (exec (step L H) (s, log) is).1 :=
  ⟨reachable_clientInv hL hreach, fun is _ _ hs => run_store_kept hL hreach is hs,
    fun _ hcs hfrozen is => run_frozen hcs hfrozen is⟩

/-- The state after `backfillRun` is reachable, and the invariant applies to it. -/
theorem reachable_client_invariant_backfill :
    Reachable twoByteClient ⟨id, id⟩ (exec (step twoByteClient ⟨id, id⟩) (State.empty, []) backfillRun).1
        (exec (step twoByteClient ⟨id, id⟩) (State.empty, []) backfillRun).2 ∧
      (exec (step twoByteClient ⟨id, id⟩) (State.empty, []) backfillRun).1.consensusStates 20 ≠ none ∧
      ClientInv (exec (step twoByteClient ⟨id, id⟩) (State.empty, []) backfillRun).1 ∧
      (∀ is h st, (exec (step twoByteClient ⟨id, id⟩) (State.empty, []) backfillRun).1.consensusStates h = some st →
        (exec (step twoByteClient ⟨id, id⟩) (exec (step twoByteClient ⟨id, id⟩) (State.empty, []) backfillRun) is).1.consensusStates h =
          some st) ∧
      ∀ cs, (exec (step twoByteClient ⟨id, id⟩) (State.empty, []) backfillRun).1.clientState = some cs →
        cs.isFrozen = true → ∀ is, Quiet (exec (step twoByteClient ⟨id, id⟩) (State.empty, []) backfillRun).1
          (exec (step twoByteClient ⟨id, id⟩) (exec (step twoByteClient ⟨id, id⟩) (State.empty, []) backfillRun) is).1 :=
  have hreach : Reachable twoByteClient ⟨id, id⟩ (exec (step twoByteClient ⟨id, id⟩) (State.empty, []) backfillRun).1
      (exec (step twoByteClient ⟨id, id⟩) (State.empty, []) backfillRun).2 := ⟨backfillRun, rfl⟩
  ⟨hreach, by decide, reachable_client_invariant twoByteClient_updatesAboveTrusted hreach⟩

end Ics07Tendermint
