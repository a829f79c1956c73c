/-
# The Solidity router's packet lifecycle

The router's log, read as an abstract lifecycle trace (`ICS26Router.trace`):
`SendPacket` is a packet sent, an `onRecvPacket` callback a packet
received, `WriteAcknowledgement` its acknowledgement, an
`onAcknowledgementPacket` or `onTimeoutPacket` callback a packet resolved.

One spec lemma per entry point says what a successful call does to the IBC
store and to the trace (`sendPacket_ok` and its siblings); `step_effect`
gathers them into the four things a transaction can do. The invariant
`RouterInv` ties the store to the trace: sequences are handed out in order,
an entry under a packet-commitment key holds the commitment of the packet
sent under it until it is resolved, and a received packet leaves a receipt.
Everything rests on two facts about Keccak-256, as named hypotheses: it is
injective, so the three kinds of key never meet, and it never yields the zero
word, so a receipt is never mistaken for an absent one.

Key definitions: `ICS26Router.trace`, `ICS26Router.RouterInv`, `ICS26Router.Reachable`.
Key theorems: `ICS26Router.step_effect`, `ICS26Router.routerInv_step`,
`ICS26Router.reachable_routerInv`.
-/
import IbcEureka.Solidity.ICS26Router
import IbcEureka.Lifecycle

namespace ICS26Router

open ICS02Client Txn Lifecycle IBCStore

/-- The lifecycle event an entry of the log is, if any. -/
def Event.lifecycle : Event → Option (PacketEvent Packet)
  | .SendPacket P => some (.sent P)
  | .onRecvPacket _ P => some (.received P)
  | .WriteAcknowledgement P _ => some (.acknowledged P)
  | .onAcknowledgementPacket _ P _ => some (.resolved P)
  | .onTimeoutPacket _ P => some (.resolved P)
  | _ => none

/-- The lifecycle trace of a log. -/
def trace (log : List Event) : List (PacketEvent Packet) := log.filterMap Event.lifecycle

@[simp] theorem trace_append (log log' : List Event) : trace (log ++ log') = trace log ++ trace log' := by
  simp [trace, List.filterMap_append]

variable (S : OzStrings) (H : Hashes)

/-! ## What each entry point does -/

variable {S H} {s s' : State} {evs : List Event}

theorem clientStep_ok {c : ClientCall} (h : clientStep S H s c = .ok (s', evs)) :
    s'.store = s.store ∧ trace evs = [] := by
  unfold clientStep at h
  cases hc : clientCall S H s.clients c with
  | error e => simp [hc, Except.map] at h
  | ok r =>
    simp only [hc, Except.map, Except.ok.injEq, Prod.mk.injEq] at h
    obtain ⟨rfl, rfl⟩ := h
    exact ⟨rfl, by simp [trace, Event.lifecycle]⟩

/-- The registry calls of an application leave the IBC store alone and log no lifecycle event. -/
theorem nestedCalls_store (s : State) (nested : List ClientCall) :
    (nestedCalls S H s nested).1.store = s.store ∧ trace (nestedCalls S H s nested).2 = [] := by
  have := exec_induction (clientStep S H) (fun s' log => s'.store = s.store ∧ trace log = [])
    (fun _ _ _ _ _ hinv hok => by
      obtain ⟨hs, ht⟩ := clientStep_ok hok
      exact ⟨hs.trans hinv.1, by simp [ht, hinv.2]⟩) nested (s, []) ⟨rfl, rfl⟩
  exact this

theorem addIBCAppAt_ok {portId : Bytes} {app : Address} (h : addIBCAppAt s portId app = .ok (s', evs)) :
    s'.store = s.store ∧ trace evs = [] := by
  simp only [addIBCAppAt, require_bind_eq_ok, pure_eq_ok, Prod.mk.injEq] at h
  obtain ⟨-, rfl, rfl⟩ := h
  exact ⟨rfl, rfl⟩

theorem addIBCAppWithPort_ok {env : Env} {portId : Bytes} {app : Address}
    (h : addIBCAppWithPort S H s env portId app = .ok (s', evs)) : s'.store = s.store ∧ trace evs = [] := by
  simp only [addIBCAppWithPort, require_bind_eq_ok] at h
  exact addIBCAppAt_ok h.2.2.2.2

theorem sendPacket_ok {env : Env} {msg : MsgSendPacket} (h : sendPacket H s env msg = .ok (s', evs)) :
    ∃ P : Packet, P.sourceClient = msg.sourceClient ∧
      (s.store.prevSequenceSends P.sourceClient).toNat + 1 < 2 ^ 64 ∧
      P.sequence = s.store.prevSequenceSends P.sourceClient + 1 ∧
      s.store.commitments (ICS24Host.packetCommitmentKeyCalldata H P.sourceClient P.sequence) = zeroWord ∧
      s'.store = (IBCStoreStorage.mk s.store.commitments
          (Function.update s.store.prevSequenceSends P.sourceClient P.sequence)).setCommitment
        (ICS24Host.packetCommitmentKeyCalldata H P.sourceClient P.sequence) (ICS24Host.packetCommitmentBytes32 H P) ∧
      evs = [.SendPacket P] := by
  simp only [sendPacket, bind_eq_ok, require_eq_ok, exists_const, pure_eq_ok, Prod.mk.injEq] at h
  obtain ⟨_, _, _, _, _, _, _, ⟨store, sequence⟩, hseq, store', hcommit, rfl, rfl⟩ := h
  obtain ⟨hlt, rfl, rfl⟩ := nextSequenceSend_ok hseq
  obtain ⟨hzero, rfl⟩ := commitPacket_ok hcommit
  exact ⟨_, rfl, hlt, rfl, hzero, rfl, rfl⟩

theorem recvCallbackCalls_store (s : State) (callback : Except Bytes Bytes) (nested : List ClientCall) :
    (recvCallbackCalls S H s callback nested).1.store = s.store ∧
      trace (recvCallbackCalls S H s callback nested).2 = [] := by
  cases callback with
  | ok _ => exact nestedCalls_store s nested
  | error _ => exact ⟨rfl, rfl⟩

theorem recvAcks_trace {callback : Except Bytes Bytes} {ack : Bytes} {ackEvents : List Event}
    (h : recvAcks H callback = .ok (ack, ackEvents)) : trace ackEvents = [] := by
  cases callback with
  | ok a =>
    simp only [recvAcks, require_bind_eq_ok, pure_eq_ok, Prod.mk.injEq] at h
    obtain ⟨-, -, -, rfl⟩ := h
    rfl
  | error reason =>
    simp only [recvAcks, require_bind_eq_ok, pure_eq_ok, Prod.mk.injEq] at h
    obtain ⟨-, -, rfl⟩ := h
    rfl

theorem recvPacket_ok {env : Env} {msg : MsgRecvPacket} {verify : MsgVerifyMembership → Bool}
    {callback : Except Bytes Bytes} {nested : List ClientCall}
    (h : recvPacket S H s env msg verify callback nested = .ok (s', evs)) :
    (s'.store = s.store ∧ trace evs = []) ∨
      ∃ ackCommitment,
        s.store.commitments (ICS24Host.packetReceiptCommitmentKeyCalldata H msg.packet.destClient
          msg.packet.sequence) = zeroWord ∧
        Function.update s.store.commitments
            (ICS24Host.packetReceiptCommitmentKeyCalldata H msg.packet.destClient msg.packet.sequence)
            (ICS24Host.packetReceiptCommitmentBytes32 H msg.packet)
            (ICS24Host.packetAcknowledgementCommitmentKeyCalldata H msg.packet.destClient msg.packet.sequence) =
          zeroWord ∧
        s'.store = (s.store.setCommitment
            (ICS24Host.packetReceiptCommitmentKeyCalldata H msg.packet.destClient msg.packet.sequence)
            (ICS24Host.packetReceiptCommitmentBytes32 H msg.packet)).setCommitment
          (ICS24Host.packetAcknowledgementCommitmentKeyCalldata H msg.packet.destClient msg.packet.sequence)
          ackCommitment ∧
        trace evs = [.received msg.packet, .acknowledged msg.packet] := by
  simp only [recvPacket, bind_eq_ok, require_eq_ok, exists_const] at h
  obtain ⟨-, _, -, _, -, -, -, _, -, _, -, -, ⟨store, fresh⟩, hreceipt, h⟩ := h
  rcases setPacketReceipt_ok hreceipt with ⟨-, rfl, rfl⟩ | ⟨hzero, rfl, rfl⟩
  · -- the receipt is already there: a no-op
    simp only [Bool.not_false, if_true, pure_eq_ok, Prod.mk.injEq] at h
    obtain ⟨rfl, rfl⟩ := h
    exact .inl ⟨rfl, rfl⟩
  · simp only [Bool.not_true, Bool.false_eq_true, if_false, bind_eq_ok, pure_eq_ok, Prod.mk.injEq] at h
    obtain ⟨app, -, ⟨ack, ackEvents⟩, hacks, store', hcommit, rfl, rfl⟩ := h
    obtain ⟨hstore, htrace⟩ := recvCallbackCalls_store (S := S) (H := H)
      { s with store := s.store.setCommitment _ _ } callback nested
    rw [hstore] at hcommit
    obtain ⟨hackZero, ackCommitment, -, rfl⟩ := commitPacketAcknowledgement_ok hcommit
    refine .inr ⟨ackCommitment, hzero, hackZero, rfl, ?_⟩
    rw [trace_append, trace_append, trace_append, htrace, recvAcks_trace hacks]
    rfl

theorem ackPacket_ok {env : Env} {msg : MsgAckPacket} {verify : MsgVerifyMembership → Bool}
    {callbackOk : Bool} {nested : List ClientCall}
    (h : ackPacket S H s env msg verify callbackOk nested = .ok (s', evs)) :
    (s'.store = s.store ∧ trace evs = []) ∨
      (s.store.commitments (ICS24Host.packetCommitmentKeyCalldata H msg.packet.sourceClient msg.packet.sequence) ≠
          zeroWord ∧
        s.store.commitments (ICS24Host.packetCommitmentKeyCalldata H msg.packet.sourceClient msg.packet.sequence) =
          ICS24Host.packetCommitmentBytes32 H msg.packet ∧
        s'.store = s.store.setCommitment
          (ICS24Host.packetCommitmentKeyCalldata H msg.packet.sourceClient msg.packet.sequence) zeroWord ∧
        trace evs = [.resolved msg.packet]) := by
  simp only [ackPacket, bind_eq_ok, require_eq_ok, exists_const] at h
  obtain ⟨-, _, -, _, -, -, _, -, _, -, _, -, -, ⟨store, found⟩, hdelete, h⟩ := h
  rcases checkAndDeletePacketCommitment_ok hdelete with ⟨-, rfl, rfl⟩ | ⟨hne, heq, rfl, rfl⟩
  · simp only [Bool.not_false, if_true, pure_eq_ok, Prod.mk.injEq] at h
    obtain ⟨rfl, rfl⟩ := h
    exact .inl ⟨rfl, rfl⟩
  · simp only [Bool.not_true, Bool.false_eq_true, if_false, bind_eq_ok, require_eq_ok, exists_const,
      pure_eq_ok, Prod.mk.injEq] at h
    obtain ⟨app, -, -, rfl, rfl⟩ := h
    obtain ⟨hstore, htrace⟩ := nestedCalls_store (S := S) (H := H)
      { s with store := s.store.setCommitment _ zeroWord } nested
    refine .inr ⟨hne, heq, hstore, ?_⟩
    rw [trace_append, trace_append, htrace]
    rfl

theorem timeoutPacket_ok {env : Env} {msg : MsgTimeoutPacket} {verify : MsgVerifyNonMembership → Option ℕ}
    {callbackOk : Bool} {nested : List ClientCall}
    (h : timeoutPacket S H s env msg verify callbackOk nested = .ok (s', evs)) :
    (s'.store = s.store ∧ trace evs = []) ∨
      (s.store.commitments (ICS24Host.packetCommitmentKeyCalldata H msg.packet.sourceClient msg.packet.sequence) ≠
          zeroWord ∧
        s.store.commitments (ICS24Host.packetCommitmentKeyCalldata H msg.packet.sourceClient msg.packet.sequence) =
          ICS24Host.packetCommitmentBytes32 H msg.packet ∧
        s'.store = s.store.setCommitment
          (ICS24Host.packetCommitmentKeyCalldata H msg.packet.sourceClient msg.packet.sequence) zeroWord ∧
        trace evs = [.resolved msg.packet]) := by
  simp only [timeoutPacket, bind_eq_ok, require_eq_ok, exists_const] at h
  obtain ⟨-, _, -, _, -, -, _, -, _, -, _, -, -, ⟨store, found⟩, hdelete, h⟩ := h
  rcases checkAndDeletePacketCommitment_ok hdelete with ⟨-, rfl, rfl⟩ | ⟨hne, heq, rfl, rfl⟩
  · simp only [Bool.not_false, if_true, pure_eq_ok, Prod.mk.injEq] at h
    obtain ⟨rfl, rfl⟩ := h
    exact .inl ⟨rfl, rfl⟩
  · simp only [Bool.not_true, Bool.false_eq_true, if_false, bind_eq_ok, require_eq_ok, exists_const,
      pure_eq_ok, Prod.mk.injEq] at h
    obtain ⟨app, -, -, rfl, rfl⟩ := h
    obtain ⟨hstore, htrace⟩ := nestedCalls_store (S := S) (H := H)
      { s with store := s.store.setCommitment _ zeroWord } nested
    refine .inr ⟨hne, heq, hstore, ?_⟩
    rw [trace_append, trace_append, htrace]
    rfl

/-! ## The four effects of a transaction -/

open ICS24Host in
/-- What a successful transaction does to the IBC store, with the lifecycle events it logs. -/
inductive Effect (H : Hashes) (st st' : IBCStoreStorage) : List (PacketEvent Packet) → Prop
  /-- No change to the store, no lifecycle event. -/
  | quiet : st' = st → Effect H st st' []
  /-- `P` is committed under the next sequence of its source client. -/
  | send (P : Packet) :
      (st.prevSequenceSends P.sourceClient).toNat + 1 < 2 ^ 64 →
      P.sequence = st.prevSequenceSends P.sourceClient + 1 →
      st.commitments (packetCommitmentKeyCalldata H P.sourceClient P.sequence) = zeroWord →
      st' = (IBCStoreStorage.mk st.commitments
          (Function.update st.prevSequenceSends P.sourceClient P.sequence)).setCommitment
        (packetCommitmentKeyCalldata H P.sourceClient P.sequence) (packetCommitmentBytes32 H P) →
      Effect H st st' [.sent P]
  /-- `P` is received: its receipt and its acknowledgement go into two absent entries. -/
  | recv (P : Packet) (ackCommitment : Bytes) :
      st.commitments (packetReceiptCommitmentKeyCalldata H P.destClient P.sequence) = zeroWord →
      Function.update st.commitments (packetReceiptCommitmentKeyCalldata H P.destClient P.sequence)
          (packetReceiptCommitmentBytes32 H P) (packetAcknowledgementCommitmentKeyCalldata H P.destClient P.sequence) =
        zeroWord →
      st' = (st.setCommitment (packetReceiptCommitmentKeyCalldata H P.destClient P.sequence)
          (packetReceiptCommitmentBytes32 H P)).setCommitment
        (packetAcknowledgementCommitmentKeyCalldata H P.destClient P.sequence) ackCommitment →
      Effect H st st' [.received P, .acknowledged P]
  /-- `P` is resolved: its commitment, present and equal to `P`'s, is deleted. -/
  | resolve (P : Packet) :
      st.commitments (packetCommitmentKeyCalldata H P.sourceClient P.sequence) ≠ zeroWord →
      st.commitments (packetCommitmentKeyCalldata H P.sourceClient P.sequence) = packetCommitmentBytes32 H P →
      st' = st.setCommitment (packetCommitmentKeyCalldata H P.sourceClient P.sequence) zeroWord →
      Effect H st st' [.resolved P]

/-- Every successful transaction has one of the four effects. -/
theorem step_effect {e : Env × Call} (h : step S H s e = .ok (s', evs)) : Effect H s.store s'.store (trace evs) := by
  obtain ⟨env, call⟩ := e
  cases call with
  | addIBCApp app =>
    obtain ⟨hs, ht⟩ := addIBCAppAt_ok h
    exact ht ▸ .quiet hs
  | addIBCAppWithPort portId app =>
    obtain ⟨hs, ht⟩ := addIBCAppWithPort_ok h
    exact ht ▸ .quiet hs
  | sendPacket msg =>
    obtain ⟨P, -, hlt, hseq, hzero, hs, rfl⟩ := sendPacket_ok h
    exact .send P hlt hseq hzero hs
  | recvPacket msg verify callback nested =>
    rcases recvPacket_ok h with ⟨hs, ht⟩ | ⟨ackCommitment, hzero, hackZero, hs, ht⟩
    · exact ht ▸ .quiet hs
    · exact ht ▸ .recv msg.packet ackCommitment hzero hackZero hs
  | ackPacket msg verify callbackOk nested =>
    rcases ackPacket_ok h with ⟨hs, ht⟩ | ⟨hne, heq, hs, ht⟩
    · exact ht ▸ .quiet hs
    · exact ht ▸ .resolve msg.packet hne heq hs
  | timeoutPacket msg verify callbackOk nested =>
    rcases timeoutPacket_ok h with ⟨hs, ht⟩ | ⟨hne, heq, hs, ht⟩
    · exact ht ▸ .quiet hs
    · exact ht ▸ .resolve msg.packet hne heq hs
  | client c =>
    obtain ⟨hs, ht⟩ := clientStep_ok h
    exact ht ▸ .quiet hs

/-! ## The invariant -/

open ICS24Host

/-- What ties the IBC store to the lifecycle trace of the log. -/
structure RouterInv (H : Hashes) (st : IBCStoreStorage) (T : List (PacketEvent Packet)) : Prop where
  spec : Spec srcKey dstKey (packetCommitmentBytes32 H) T
  /-- The packets sent on a client carry the sequences 1, 2, … up to its counter. -/
  sequences : ∀ c, (select PacketEvent.sent? Packet.sourceClient c T).map (fun P => P.sequence.toNat) =
    List.range' 1 (st.prevSequenceSends c).toNat
  /-- Nothing is committed under a sequence not handed out yet. -/
  fresh : ∀ c q, (st.prevSequenceSends c).toNat < q.toNat →
    st.commitments (packetCommitmentKeyCalldata H c q) = zeroWord
  /-- A present commitment is that of the packet sent under its key. -/
  committed : ∀ c q, st.commitments (packetCommitmentKeyCalldata H c q) ≠ zeroWord →
    ∃ P ∈ select PacketEvent.sent? srcKey (c, q) T,
      st.commitments (packetCommitmentKeyCalldata H c q) = packetCommitmentBytes32 H P
  /-- A resolved packet's commitment is gone. -/
  resolved : ∀ c q, select PacketEvent.resolved? srcKey (c, q) T ≠ [] →
    st.commitments (packetCommitmentKeyCalldata H c q) = zeroWord
  /-- A received packet left its receipt. -/
  received : ∀ d q, select PacketEvent.received? dstKey (d, q) T ≠ [] →
    st.commitments (packetReceiptCommitmentKeyCalldata H d q) ≠ zeroWord

theorem routerInv_init : RouterInv H IBCStoreStorage.init [] where
  spec := Spec.nil
  sequences _ := rfl
  fresh _ _ _ := rfl
  committed _ _ h := absurd rfl h
  resolved _ _ h := absurd rfl h
  received _ _ h := absurd rfl h

theorem mem_select_srcKey {kind : PacketEvent Packet → Option Packet} {c : Bytes} {q : UInt64}
    {T : List (PacketEvent Packet)} {P : Packet} :
    P ∈ select kind srcKey (c, q) T ↔ P ∈ select kind Packet.sourceClient c T ∧ P.sequence = q := by
  simp only [mem_select_iff, srcKey, Prod.mk.injEq, and_assoc]

variable {st : IBCStoreStorage} {T : List (PacketEvent Packet)}

/-- A packet sent under `(c, q)` has a sequence handed out already. -/
theorem RouterInv.le_of_sent (hinv : RouterInv H st T) {c : Bytes} {q : UInt64} {P : Packet}
    (hP : P ∈ select PacketEvent.sent? srcKey (c, q) T) : q.toNat ≤ (st.prevSequenceSends c).toNat := by
  obtain ⟨hmem, rfl⟩ := mem_select_srcKey.mp hP
  have hin : P.sequence.toNat ∈ List.range' 1 (st.prevSequenceSends c).toNat := by
    rw [← hinv.sequences c]
    exact List.mem_map_of_mem hmem
  rw [List.mem_range'_1] at hin
  omega

theorem RouterInv.select_next_eq_nil (hinv : RouterInv H st T) {c : Bytes} {q : UInt64}
    (hq : q.toNat = (st.prevSequenceSends c).toNat + 1) : select PacketEvent.sent? srcKey (c, q) T = [] := by
  refine List.eq_nil_iff_forall_not_mem.mpr fun P hP => ?_
  have := hinv.le_of_sent hP
  omega

section Preservation

variable (hinj : Function.Injective H.keccak256)
include hinj

/-- Committing a packet under the next sequence of its client keeps the invariant. -/
theorem routerInv_send (hinv : RouterInv H st T) (P : Packet)
    (hlt : (st.prevSequenceSends P.sourceClient).toNat + 1 < 2 ^ 64)
    (hseq : P.sequence = st.prevSequenceSends P.sourceClient + 1) :
    RouterInv H ((IBCStoreStorage.mk st.commitments
        (Function.update st.prevSequenceSends P.sourceClient P.sequence)).setCommitment
      (packetCommitmentKeyCalldata H P.sourceClient P.sequence) (packetCommitmentBytes32 H P)) (T ++ [.sent P]) := by
  have hq : P.sequence.toNat = (st.prevSequenceSends P.sourceClient).toNat + 1 := by
    rw [hseq, UInt64.toNat_add, UInt64.toNat_one, Nat.mod_eq_of_lt hlt]
  have hfresh := hinv.select_next_eq_nil hq
  -- the only entry that changes is the one under the packet's own key
  have hkey : ∀ c q, packetCommitmentKeyCalldata H c q = packetCommitmentKeyCalldata H P.sourceClient P.sequence →
      c = P.sourceClient ∧ q = P.sequence := fun c q h => packetCommitmentKeyCalldata_inj hinj h
  refine ⟨hinv.spec.append_sent P hfresh, fun c => ?_, fun c q hlt' => ?_, fun c q hne => ?_, fun c q hres => ?_,
    fun d q hrec => ?_⟩
  · -- sequences: the client's list grows by the next sequence
    by_cases hc : P.sourceClient = c
    · subst hc
      simp [select_singleton, PacketEvent.sent?, hinv.sequences, hq, List.range'_concat]
      omega
    · simp [select_singleton, PacketEvent.sent?, hc, hinv.sequences, Function.update_of_ne (Ne.symm hc)]
  · simp only [IBCStoreStorage.setCommitment_commitments, Function.update_apply]
    split
    · rename_i h
      obtain ⟨rfl, rfl⟩ := hkey c q h
      simp at hlt'
    · apply hinv.fresh c q
      simp only [IBCStoreStorage.setCommitment_prevSequenceSends, Function.update_apply] at hlt'
      split at hlt'
      · rename_i hc
        subst hc
        omega
      · exact hlt'
  · simp only [IBCStoreStorage.setCommitment_commitments, Function.update_apply] at hne ⊢
    split
    · rename_i h
      obtain ⟨rfl, rfl⟩ := hkey c q h
      exact ⟨P, by simp [select_singleton, PacketEvent.sent?, srcKey], rfl⟩
    · rw [if_neg ‹_›] at hne
      obtain ⟨P', hP', hv⟩ := hinv.committed c q hne
      exact ⟨P', by simp [hP'], hv⟩
  · simp only [select_append, select_singleton, PacketEvent.resolved?, List.append_nil] at hres
    simp only [IBCStoreStorage.setCommitment_commitments, Function.update_apply]
    split
    · -- nothing was resolved under a key nothing was sent under
      rename_i h
      obtain ⟨rfl, rfl⟩ := hkey c q h
      obtain ⟨P', hP'⟩ := List.exists_mem_of_ne_nil _ hres
      obtain ⟨P'', hP'', -⟩ := hinv.spec.resolved_sent _ P' hP'
      simp [hfresh] at hP''
    · exact hinv.resolved c q hres
  · simp only [select_append, select_singleton, PacketEvent.received?, List.append_nil] at hrec
    simpa [Function.update_of_ne (packetCommitmentKey_ne_receiptKey hinj _ _ _ _).symm] using hinv.received d q hrec

/-- Resolving a packet whose commitment is present and its own keeps the invariant. -/
theorem routerInv_resolve (hinv : RouterInv H st T) (P : Packet)
    (hne : st.commitments (packetCommitmentKeyCalldata H P.sourceClient P.sequence) ≠ zeroWord)
    (heq : st.commitments (packetCommitmentKeyCalldata H P.sourceClient P.sequence) = packetCommitmentBytes32 H P) :
    RouterInv H (st.setCommitment (packetCommitmentKeyCalldata H P.sourceClient P.sequence) zeroWord)
      (T ++ [.resolved P]) := by
  -- nothing was resolved under the key yet, and the packet sent under it has this commitment
  have hfresh : select PacketEvent.resolved? srcKey (srcKey P) T = [] := by
    by_contra hres
    exact hne (hinv.resolved _ _ hres)
  have hsent : ∃ P' ∈ select PacketEvent.sent? srcKey (srcKey P) T,
      packetCommitmentBytes32 H P' = packetCommitmentBytes32 H P := by
    obtain ⟨P', hP', hv⟩ := hinv.committed _ _ hne
    exact ⟨P', hP', hv.symm.trans heq⟩
  have hkey : ∀ c q, packetCommitmentKeyCalldata H c q = packetCommitmentKeyCalldata H P.sourceClient P.sequence →
      c = P.sourceClient ∧ q = P.sequence := fun c q h => packetCommitmentKeyCalldata_inj hinj h
  refine ⟨hinv.spec.append_resolved P hfresh hsent, fun c => ?_, fun c q hlt => ?_, fun c q hne' => ?_,
    fun c q _ => ?_, fun d q hrec => ?_⟩
  · simpa [select_singleton, PacketEvent.sent?] using hinv.sequences c
  · simp only [IBCStoreStorage.setCommitment_commitments, Function.update_apply]
    split
    · rfl
    · exact hinv.fresh c q hlt
  · simp only [IBCStoreStorage.setCommitment_commitments, Function.update_apply] at hne' ⊢
    split at hne'
    · exact absurd rfl hne'
    · rw [if_neg ‹_›]
      obtain ⟨P', hP', hv⟩ := hinv.committed c q hne'
      exact ⟨P', by simp [hP'], hv⟩
  · simp only [IBCStoreStorage.setCommitment_commitments, Function.update_apply]
    split
    · rfl
    · rename_i hk
      by_cases hres : select PacketEvent.resolved? srcKey (c, q) T = []
      · -- the packet resolved now is the one under this key
        exfalso
        simp only [select_append, select_singleton, PacketEvent.resolved?, hres, List.nil_append] at *
        split at * <;> simp_all [srcKey]
      · exact hinv.resolved c q hres
  · simp only [select_append, select_singleton, PacketEvent.received?, List.append_nil] at hrec
    simpa [Function.update_of_ne (packetCommitmentKey_ne_receiptKey hinj _ _ _ _).symm] using hinv.received d q hrec

/-- Receiving a packet into an absent receipt keeps the invariant, when no receipt is the
zero word. -/
theorem routerInv_recv (hnz : ∀ b, H.keccak256 b ≠ zeroWord) (hinv : RouterInv H st T) (P : Packet)
    (ackCommitment : Bytes)
    (hzero : st.commitments (packetReceiptCommitmentKeyCalldata H P.destClient P.sequence) = zeroWord) :
    RouterInv H ((st.setCommitment (packetReceiptCommitmentKeyCalldata H P.destClient P.sequence)
        (packetReceiptCommitmentBytes32 H P)).setCommitment
      (packetAcknowledgementCommitmentKeyCalldata H P.destClient P.sequence) ackCommitment)
      (T ++ [.received P, .acknowledged P]) := by
  have hfresh : select PacketEvent.received? dstKey (dstKey P) T = [] := by
    by_contra hrec
    exact hinv.received _ _ hrec hzero
  -- the packet-commitment entries are neither the receipt nor the acknowledgement entry
  have hcommit : ∀ c q, ((st.setCommitment (packetReceiptCommitmentKeyCalldata H P.destClient P.sequence)
      (packetReceiptCommitmentBytes32 H P)).setCommitment
      (packetAcknowledgementCommitmentKeyCalldata H P.destClient P.sequence) ackCommitment).commitments
      (packetCommitmentKeyCalldata H c q) = st.commitments (packetCommitmentKeyCalldata H c q) := by
    intro c q
    simp [Function.update_of_ne (packetCommitmentKey_ne_receiptKey hinj _ _ _ _),
      Function.update_of_ne (packetCommitmentKey_ne_acknowledgementKey hinj _ _ _ _)]
  refine ⟨hinv.spec.append_received P hfresh, fun c => ?_, fun c q hlt => ?_, fun c q hne => ?_,
    fun c q hres => ?_, fun d q hrec => ?_⟩
  · simpa [select_pair, select_singleton, PacketEvent.sent?] using hinv.sequences c
  · rw [hcommit]
    exact hinv.fresh c q hlt
  · rw [hcommit] at hne ⊢
    obtain ⟨P', hP', hv⟩ := hinv.committed c q hne
    exact ⟨P', by simp [hP'], hv⟩
  · rw [hcommit]
    exact hinv.resolved c q (by simpa [select_pair, select_singleton, PacketEvent.resolved?] using hres)
  · simp only [IBCStoreStorage.setCommitment_commitments,
      Function.update_of_ne (receiptKey_ne_acknowledgementKey hinj _ _ _ _), Function.update_apply]
    split
    · -- the receipt just written is a Keccak-256 digest
      exact hnz _
    · rename_i hk
      apply hinv.received d q
      simp only [select_append, select_pair, select_singleton, PacketEvent.received?, List.append_nil] at hrec
      split at hrec
      · rename_i hd
        simp only [dstKey, Prod.mk.injEq] at hd
        exact absurd (by rw [hd.1, hd.2]) hk
      · simpa using hrec

theorem routerInv_effect (hnz : ∀ b, H.keccak256 b ≠ zeroWord) {st' : IBCStoreStorage}
    {E : List (PacketEvent Packet)} (hinv : RouterInv H st T) (he : Effect H st st' E) :
    RouterInv H st' (T ++ E) := by
  cases he with
  | quiet hs => simpa [hs] using hinv
  | send P hlt hseq _ hs => exact hs ▸ routerInv_send hinj hinv P hlt hseq
  | recv P ackCommitment hzero _ hs => exact hs ▸ routerInv_recv hinj hnz hinv P ackCommitment hzero
  | resolve P hne heq hs => exact hs ▸ routerInv_resolve hinj hinv P hne heq

/-- A packet-commitment entry changes only by the send that fills it, from absent and under a
sequence not handed out yet, or by a delete under a sequence handed out already. -/
theorem effect_commitment {st' : IBCStoreStorage} {E : List (PacketEvent Packet)} (hinv : RouterInv H st T)
    (he : Effect H st st' E) (c : Bytes) (q : UInt64)
    (hch : st'.commitments (packetCommitmentKeyCalldata H c q) ≠ st.commitments (packetCommitmentKeyCalldata H c q)) :
    (st.commitments (packetCommitmentKeyCalldata H c q) = zeroWord ∧ (st.prevSequenceSends c).toNat < q.toNat ∧
        ∃ P, PacketEvent.sent P ∈ E ∧ srcKey P = (c, q) ∧
          st'.commitments (packetCommitmentKeyCalldata H c q) = packetCommitmentBytes32 H P) ∨
      (st'.commitments (packetCommitmentKeyCalldata H c q) = zeroWord ∧
        q.toNat ≤ (st.prevSequenceSends c).toNat) := by
  cases he with
  | quiet hs => exact absurd (by rw [hs]) hch
  | send P hlt hseq hzero hs =>
    subst hs
    simp only [IBCStoreStorage.setCommitment_commitments, Function.update_apply] at hch ⊢
    split at hch
    · rename_i hk
      obtain ⟨rfl, rfl⟩ := packetCommitmentKeyCalldata_inj hinj hk
      have hq : P.sequence.toNat = (st.prevSequenceSends P.sourceClient).toNat + 1 := by
        rw [hseq, UInt64.toNat_add, UInt64.toNat_one, Nat.mod_eq_of_lt hlt]
      exact .inl ⟨hzero, by omega, P, by simp, rfl, by simp⟩
    · exact absurd rfl hch
  | recv P ackCommitment _ _ hs =>
    subst hs
    simp [Function.update_of_ne (packetCommitmentKey_ne_receiptKey hinj _ _ _ _),
      Function.update_of_ne (packetCommitmentKey_ne_acknowledgementKey hinj _ _ _ _)] at hch
  | resolve P hne _ hs =>
    subst hs
    simp only [IBCStoreStorage.setCommitment_commitments, Function.update_apply] at hch ⊢
    split at hch
    · rename_i hk
      obtain ⟨rfl, rfl⟩ := packetCommitmentKeyCalldata_inj hinj hk
      -- a present commitment is under a sequence handed out already
      have hle : P.sequence.toNat ≤ (st.prevSequenceSends P.sourceClient).toNat := by
        by_contra hlt
        exact hne (hinv.fresh _ _ (by omega))
      exact .inr ⟨by simp, hle⟩
    · exact absurd rfl hch

/-- An acknowledgement entry changes only from absent, by the transaction that writes the
acknowledgement of a packet with that destination key. -/
theorem effect_acknowledgement {st' : IBCStoreStorage} {E : List (PacketEvent Packet)} (he : Effect H st st' E)
    (d : Bytes) (q : UInt64)
    (hch : st'.commitments (packetAcknowledgementCommitmentKeyCalldata H d q) ≠
      st.commitments (packetAcknowledgementCommitmentKeyCalldata H d q)) :
    st.commitments (packetAcknowledgementCommitmentKeyCalldata H d q) = zeroWord ∧
      ∃ P, PacketEvent.acknowledged P ∈ E ∧ dstKey P = (d, q) := by
  cases he with
  | quiet hs => exact absurd (by rw [hs]) hch
  | send P _ _ _ hs =>
    subst hs
    simp [Function.update_of_ne (packetCommitmentKey_ne_acknowledgementKey hinj _ _ _ _).symm] at hch
  | recv P ackCommitment _ hackZero hs =>
    subst hs
    have hra : packetAcknowledgementCommitmentKeyCalldata H d q ≠
        packetReceiptCommitmentKeyCalldata H P.destClient P.sequence :=
      (receiptKey_ne_acknowledgementKey hinj _ _ _ _).symm
    simp only [IBCStoreStorage.setCommitment_commitments, Function.update_apply, if_neg hra] at hch ⊢
    split at hch
    · rename_i hk
      obtain ⟨rfl, rfl⟩ := packetAcknowledgementCommitmentKeyCalldata_inj hinj hk
      rw [Function.update_of_ne hra] at hackZero
      exact ⟨hackZero, P, by simp, rfl⟩
    · exact absurd rfl hch
  | resolve P _ _ hs =>
    subst hs
    simp [Function.update_of_ne (packetCommitmentKey_ne_acknowledgementKey hinj _ _ _ _).symm] at hch

end Preservation

theorem effect_prevSequenceSends {st' : IBCStoreStorage} {E : List (PacketEvent Packet)} (he : Effect H st st' E)
    (c : Bytes) : (st.prevSequenceSends c).toNat ≤ (st'.prevSequenceSends c).toNat := by
  cases he with
  | send P hlt hseq _ hs =>
    subst hs
    simp only [IBCStoreStorage.setCommitment_prevSequenceSends, Function.update_apply]
    split
    · rename_i hc
      subst hc
      rw [hseq, UInt64.toNat_add, UInt64.toNat_one, Nat.mod_eq_of_lt hlt]
      omega
    · exact le_rfl
  | quiet hs => rw [hs]
  | recv _ _ _ _ hs => rw [hs]; rfl
  | resolve _ _ _ hs => rw [hs]; rfl

/-! ## Runs -/

/-- A state and log some run of transactions from a freshly initialized router reaches. -/
def Reachable (S : OzStrings) (H : Hashes) (s : State) (log : List Event) : Prop :=
  ∃ calls, exec (step S H) (State.init, []) calls = (s, log)

/-- **The invariant holds along every run.** -/
theorem reachable_routerInv (hinj : Function.Injective H.keccak256) (hnz : ∀ b, H.keccak256 b ≠ zeroWord)
    {s : State} {log : List Event} (hreach : Reachable S H s log) : RouterInv H s.store (trace log) := by
  obtain ⟨calls, hrun⟩ := hreach
  have := exec_induction (step S H) (fun s log => RouterInv H s.store (trace log))
    (fun _ _ _ _ _ hinv hok => by
      rw [trace_append]
      exact routerInv_effect hinj hnz hinv (step_effect hok)) calls (State.init, []) routerInv_init
  rwa [hrun] at this

theorem Reachable.step {s s' : State} {log evs : List Event} {e : Env × Call} (hreach : Reachable S H s log)
    (h : step S H s e = .ok (s', evs)) : Reachable S H s' (log ++ evs) := by
  obtain ⟨calls, hrun⟩ := hreach
  refine ⟨calls ++ [e], ?_⟩
  rw [exec_append, hrun, exec_cons, apply_of_ok _ h]
  rfl

/-! ## The lifecycle of the Solidity router -/

variable (S H)

theorem solidity_packet_lifecycle (hinj : Function.Injective H.keccak256) (hnz : ∀ b, H.keccak256 b ≠ zeroWord)
    {s : State} {log : List Event} (hreach : Reachable S H s log) :
    (∀ c, (select PacketEvent.sent? Packet.sourceClient c (trace log)).map (fun P => P.sequence.toNat) =
      List.range' 1 (s.store.prevSequenceSends c).toNat) ∧
    Spec srcKey dstKey (packetCommitmentBytes32 H) (trace log) ∧
    ∀ e s' evs, step S H s e = .ok (s', evs) → ∀ c q,
      (s.store.prevSequenceSends c).toNat ≤ (s'.store.prevSequenceSends c).toNat ∧
      (s'.store.commitments (packetCommitmentKeyCalldata H c q) ≠
          s.store.commitments (packetCommitmentKeyCalldata H c q) →
        (s.store.commitments (packetCommitmentKeyCalldata H c q) = zeroWord ∧
            (s.store.prevSequenceSends c).toNat < q.toNat ∧
            ∃ P, PacketEvent.sent P ∈ trace evs ∧ srcKey P = (c, q) ∧
              s'.store.commitments (packetCommitmentKeyCalldata H c q) = packetCommitmentBytes32 H P) ∨
          (s'.store.commitments (packetCommitmentKeyCalldata H c q) = zeroWord ∧
            q.toNat ≤ (s.store.prevSequenceSends c).toNat)) ∧
      (s'.store.commitments (packetAcknowledgementCommitmentKeyCalldata H c q) ≠
          s.store.commitments (packetAcknowledgementCommitmentKeyCalldata H c q) →
        s.store.commitments (packetAcknowledgementCommitmentKeyCalldata H c q) = zeroWord ∧
          ∃ P, PacketEvent.acknowledged P ∈ trace evs ∧ dstKey P = (c, q)) := by
  have hinv := reachable_routerInv hinj hnz hreach
  refine ⟨hinv.sequences, hinv.spec, fun e s' evs h c q => ?_⟩
  have he := step_effect h
  exact ⟨effect_prevSequenceSends he c, effect_commitment hinj hinv he c q,
    effect_acknowledgement hinj he c q⟩

/-- Keccak-256 stood in for by a function that is injective and never gives the zero word. -/
def consHashes : Hashes := ⟨id, fun b => 1 :: b⟩

/-- OpenZeppelin's `Strings` stood in for by constant functions. -/
def constStrings : OzStrings := ⟨fun _ => [], fun _ => [], fun _ => false⟩

theorem consHashes_keccak256_injective : Function.Injective consHashes.keccak256 :=
  fun _ _ h => (List.cons.inj h).2

theorem consHashes_keccak256_ne_zeroWord (b : Bytes) : consHashes.keccak256 b ≠ zeroWord := by
  intro h
  have := congrArg List.head? h
  simp [consHashes, zeroWord] at this

/-- The packet `client-`/1 from the port of the app at address 7, timing out at 100. -/
def samplePacket : Packet :=
  ⟨1, IBCIdentifiers.clientIdPrefix, [0x64], 100, [⟨[], [0x71], [], [], [0x2a]⟩]⟩

/-- A client and an app are added, the app sends `samplePacket` at time 10, and a relayer times it
out with a proof that the counterparty's time is 100. -/
def sampleCalls : List (Env × Call) :=
  [(⟨3, false, 0⟩, .client (.addClient ⟨[0x64], [[0x69]]⟩ 5)),
    (⟨3, false, 0⟩, .addIBCApp 7),
    (⟨7, false, 10⟩, .sendPacket ⟨IBCIdentifiers.clientIdPrefix, 100, ⟨[], [0x71], [], [], [0x2a]⟩⟩),
    (⟨3, true, 20⟩, .timeoutPacket ⟨samplePacket, [], ⟨0, 1⟩⟩ (fun _ => some 100) true [])]

/-- The state and the log after `sampleCalls`. -/
def sampleRun : State × List Event := exec (step constStrings consHashes) (State.init, []) sampleCalls

theorem solidity_packet_lifecycle_sample :
    Function.Injective consHashes.keccak256 ∧ (∀ b, consHashes.keccak256 b ≠ zeroWord) ∧
      Reachable constStrings consHashes sampleRun.1 sampleRun.2 ∧
      trace sampleRun.2 = [.sent samplePacket, .resolved samplePacket] ∧
      (∀ c, (select PacketEvent.sent? Packet.sourceClient c (trace sampleRun.2)).map (fun P => P.sequence.toNat) =
        List.range' 1 (sampleRun.1.store.prevSequenceSends c).toNat) ∧
      Spec srcKey dstKey (packetCommitmentBytes32 consHashes) (trace sampleRun.2) := by
  have hreach : Reachable constStrings consHashes sampleRun.1 sampleRun.2 := ⟨sampleCalls, rfl⟩
  have hlife := solidity_packet_lifecycle constStrings consHashes consHashes_keccak256_injective
    consHashes_keccak256_ne_zeroWord hreach
  exact ⟨consHashes_keccak256_injective, consHashes_keccak256_ne_zeroWord, hreach, by decide, hlife.1, hlife.2.1⟩

end ICS26Router
