/-
# The Solana router's packet lifecycle

The router's log, read as an abstract lifecycle trace (`Ics26Router.trace`):
`SendPacketEvent` is a packet sent, the `on_recv_packet` call a packet received,
`WriteAcknowledgementEvent` its acknowledgement, the `on_acknowledgement_packet`
or `on_timeout_packet` call a packet resolved.

Only the packet accounts matter to the lifecycle (`Ics26Router.view`). One
lemma per instruction says what a successful run of it does to them and to the
trace (`sendPacket_ok` and its siblings); `step_effect` gathers them into the
four things an instruction can do. The invariant `RouterInv` ties the packet
accounts to the trace: no commitment account where nothing was sent, a live
commitment is that of the packet sent under its key and nothing resolved it,
a received packet left a non-empty receipt, and a non-empty acknowledgement
sits beside a non-empty receipt. It holds initially and every effect keeps it,
given that SHA-256 and Keccak-256 never return the zero word.

Key definitions: `Ics26Router.trace`, `Ics26Router.Effect`, `Ics26Router.RouterInv`,
`Ics26Router.Reachable`.
Key theorems: `Ics26Router.step_effect`, `Ics26Router.routerInv_effect`,
`Ics26Router.reachable_routerInv`.
-/
import IbcEureka.Solana.Router
import IbcEureka.Lifecycle

namespace Ics26Router

open Txn Lifecycle

/-- The lifecycle event an entry of the log is, if any. -/
def Event.lifecycle : Event → Option (PacketEvent Packet)
  | .SendPacketEvent _ _ P _ => some (.sent P)
  | .onRecvPacket _ P _ => some (.received P)
  | .WriteAcknowledgementEvent _ _ P _ => some (.acknowledged P)
  | .onAcknowledgementPacket _ P _ _ => some (.resolved P)
  | .onTimeoutPacket _ P _ => some (.resolved P)
  | _ => none

/-- The lifecycle trace of a log. -/
def trace (log : List Event) : List (PacketEvent Packet) := log.filterMap Event.lifecycle

@[simp] theorem trace_append (log log' : List Event) : trace (log ++ log') = trace log ++ trace log' := by
  simp [trace, List.filterMap_append]

/-- The packet accounts are as they were, but for acknowledgement accounts created empty. -/
def PacketView.Quiet (v v' : PacketView) : Prop :=
  v'.commitment = v.commitment ∧ v'.receipt = v.receipt ∧
    ∀ k, v'.ack k = v.ack k ∨ (v.ack k = none ∧ v'.ack k = some (.commitment empty))

theorem PacketView.quiet_refl (v : PacketView) : v.Quiet v :=
  ⟨rfl, rfl, fun _ => .inl rfl⟩

/-- `recv_packet` of a packet received already writes back the receipt it found and the
acknowledgement it found or created. -/
theorem PacketView.quiet_noop {v : PacketView} {k : Bytes × UInt64} {receipt ack : Bytes}
    (hr : v.receipt k = some (.commitment receipt))
    (ha : (v.ack k = none ∧ ack = empty) ∨ v.ack k = some (.commitment ack)) :
    v.Quiet ((v.setReceipt k (.commitment receipt)).setAck k (.commitment ack)) := by
  refine ⟨rfl, Function.update_eq_self_iff.mpr hr.symm, fun k' => ?_⟩
  by_cases hk : k' = k
  · subst hk
    rcases ha with ⟨hnone, rfl⟩ | hsome
    · exact .inr ⟨hnone, Function.update_self _ _ _⟩
    · exact .inl ((Function.update_self _ _ _).trans hsome.symm)
  · exact .inl (Function.update_of_ne hk _ _)

theorem view_writeBack (accts : Accounts) (d : Bytes) (q : UInt64) (receipt ack : Bytes) :
    view (writeBack accts (packetReceiptKey d q) receipt (packetAckKey d q) ack) =
      ((view accts).setReceipt (d, q) (.commitment receipt)).setAck (d, q) (.commitment ack) := by
  rw [writeBack, view_set_packetAck, view_set_packetReceipt]

/-! ## What each instruction does -/

variable {H : Hashes} {accts accts' : Accounts} {evs : List Event}

theorem sendPacket_ok {unixTimestamp : Int} {appCaller : Pubkey} {msg : MsgSendPacket}
    {status : Option ClientStatus} (h : sendPacket H accts unixTimestamp appCaller msg status = .ok (accts', evs)) :
    ∃ P : Packet, srcKey P = (msg.sourceClient, msg.sequence) ∧ (view accts).commitment (srcKey P) = none ∧
      view accts' = (view accts).setCommitment (srcKey P) (.commitment (Ics24.packetCommitmentBytes32 H P)) ∧
      trace evs = [.sent P] := by
  simp only [sendPacket, bind_eq_ok, require_eq_ok, exists_const, pure_eq_ok, Prod.mk.injEq] at h
  obtain ⟨_, -, app, -, -, key, hkey, _, hinit, -, client, -, -, _, -, -, _, -, -, -, -, rfl, rfl⟩ := h
  have hkey' : key = packetCommitmentKey msg.sourceClient msg.sequence := address_eq_ok hkey
  subst hkey'
  refine ⟨⟨msg.sequence, msg.sourceClient, client.counterpartyInfo.clientId, msg.timeoutTimestamp, [msg.payload]⟩,
    rfl, initCommitment_eq_ok.mp hinit, ?_, rfl⟩
  exact view_set_packetCommitment _ _ _ _

theorem recvWrite_ok {receiptKey receipt ackKey ack : Bytes} {appProgram : Pubkey} {P : Packet} {payload : Payload}
    {onRecv : Option Bytes}
    (h : recvWrite H accts receiptKey receipt ackKey ack appProgram P payload onRecv = .ok (accts', evs)) :
    (receipt ≠ empty ∧ accts' = writeBack accts receiptKey receipt ackKey ack ∧ trace evs = []) ∨
      (receipt = empty ∧ ∃ r ackCommitment, Ics24.packetReceiptCommitmentBytes32 H P = .ok r ∧
        accts' = writeBack accts receiptKey r ackKey ackCommitment ∧ trace evs = [.received P, .acknowledged P]) := by
  simp only [recvWrite, bind_eq_ok, mapError_eq_ok] at h
  obtain ⟨r, hr, h⟩ := h
  by_cases hempty : receipt = empty
  · simp only [hempty, ne_eq, not_true_eq_false, if_false, bind_eq_ok, expect_eq_ok, require_eq_ok,
      exists_const, mapError_eq_ok, pure_eq_ok, Prod.mk.injEq] at h
    obtain ⟨_, -, -, -, ackCommitment, -, rfl, rfl⟩ := h
    exact .inr ⟨hempty, r, ackCommitment, hr, rfl, rfl⟩
  · rw [if_pos hempty] at h
    split at h
    · obtain ⟨rfl, rfl⟩ := Prod.mk.inj (Except.ok.inj h.symm)
      exact .inl ⟨hempty, rfl, rfl⟩
    · cases h

theorem recvPacket_ok {unixTimestamp : Int} {relayer : Pubkey} {hasRole : Bool} {msg : MsgRecvPacket}
    {remaining : List Bytes} {appProgram : Pubkey} {verify : MembershipMsg → Bool} {onRecv : Option Bytes}
    (h : recvPacket H accts unixTimestamp relayer hasRole msg remaining appProgram verify onRecv = .ok (accts', evs)) :
    ((view accts).Quiet (view accts') ∧ trace evs = []) ∨
      ∃ P r ackCommitment, ((view accts).receipt (dstKey P) = none ∨
          (view accts).receipt (dstKey P) = some (.commitment empty)) ∧
        Ics24.packetReceiptCommitmentBytes32 H P = .ok r ∧
        view accts' = ((view accts).setReceipt (dstKey P) (.commitment r)).setAck (dstKey P) (.commitment ackCommitment) ∧
        trace evs = [.received P, .acknowledged P] := by
  simp only [recvPacket, bind_eq_ok, require_eq_ok, exists_const, expect_eq_ok, mapError_eq_ok] at h
  obtain ⟨_, -, _, -, app, -, rkey, hrkey, receipt, hreceipt, akey, hakey, ack, hack, -, client, -, -, -, -, -,
    _, -, -, ⟨accts₁, P⟩, hrec, payload, -, total, -, ⟨accts₂, proof⟩, hproof, path, -, -, hwrite⟩ := h
  obtain rfl : rkey = packetReceiptKey msg.packet.destClient msg.packet.sequence := address_eq_ok hrkey
  obtain rfl : akey = packetAckKey msg.packet.destClient msg.packet.sequence := address_eq_ok hakey
  obtain ⟨hv₁, hseq, -, hdst, -⟩ := validateAndReconstructPacket_ok hrec
  have hv₂ : view accts₂ = view accts₁ := assembleProofChunks_view hproof
  have hkey : dstKey P = (msg.packet.destClient, msg.packet.sequence) := by
    simp only [dstKey, hseq, hdst]
  -- the receipt and the acknowledgement were read before the chunks were consumed
  have hr := initIfNeededCommitment_eq_ok.mp hreceipt
  have ha := initIfNeededCommitment_eq_ok.mp hack
  rcases recvWrite_ok hwrite with ⟨hne, rfl, htr⟩ | ⟨hempty, r, ackCommitment, hcommit, rfl, htr⟩
  · left
    refine ⟨?_, htr⟩
    rw [view_writeBack, hv₂, hv₁]
    apply PacketView.quiet_noop _ ha
    rcases hr with ⟨-, hempty⟩ | hsome
    · exact absurd hempty hne
    · exact hsome
  · right
    refine ⟨P, r, ackCommitment, ?_, hcommit, ?_, htr⟩
    · rw [hkey]
      rcases hr with ⟨hnone, -⟩ | hsome
      · exact .inl hnone
      · exact .inr (hempty ▸ hsome)
    · rw [view_writeBack, hv₂, hv₁, hkey]

theorem resolvePacket_ok {relayer : Pubkey} {hasRole : Bool} {msgPacket : MsgPacket} {proofDelivery : Delivery}
    {remaining : List Bytes} {appProgram : Pubkey} {proveToClient : Client → Packet → Bytes → Except Fail Unit}
    {callbackOk : Bool} {events : Pubkey → Packet → Payload → List Event}
    (h : resolvePacket H accts relayer hasRole msgPacket proofDelivery remaining appProgram proveToClient callbackOk
      events = .ok (accts', evs)) :
    ∃ P payload appProgramId,
      (view accts).commitment (srcKey P) = some (.commitment (Ics24.packetCommitmentBytes32 H P)) ∧
      view accts' = (view accts).setCommitment (srcKey P) (.commitment empty) ∧ evs = events appProgramId P payload := by
  simp only [resolvePacket, bind_eq_ok, require_eq_ok, exists_const, expect_eq_ok, pure_eq_ok, Prod.mk.injEq] at h
  obtain ⟨_, -, _, -, app, -, ckey, hckey, commitment, hcommit, -, client, -, -, -, -, -, ⟨accts₁, P⟩, hrec,
    payload, -, total, -, ⟨accts₂, proof⟩, hproof, _, -, hc, -, rfl, rfl⟩ := h
  obtain rfl : ckey = packetCommitmentKey msgPacket.sourceClient msgPacket.sequence := address_eq_ok hckey
  obtain ⟨hv₁, hseq, hsrc, -, -⟩ := validateAndReconstructPacket_ok hrec
  have hv₂ : view accts₂ = view accts₁ := assembleProofChunks_view hproof
  have hkey : srcKey P = (msgPacket.sourceClient, msgPacket.sequence) := by
    simp only [srcKey, hseq, hsrc]
  refine ⟨P, payload, app.appProgramId, ?_, ?_, rfl⟩
  · rw [hkey, ← hc]
    exact loadCommitment_eq_ok.mp hcommit
  · rw [view_set_packetCommitment, hv₂, hv₁, hkey]

theorem ackPacket_ok {relayer : Pubkey} {hasRole : Bool} {msg : MsgAckPacket} {remaining : List Bytes}
    {appProgram : Pubkey} {verify : MembershipMsg → Bool} {onAck : Bool}
    (h : ackPacket H accts relayer hasRole msg remaining appProgram verify onAck = .ok (accts', evs)) :
    ∃ P, (view accts).commitment (srcKey P) = some (.commitment (Ics24.packetCommitmentBytes32 H P)) ∧
      view accts' = (view accts).setCommitment (srcKey P) (.commitment empty) ∧ trace evs = [.resolved P] := by
  obtain ⟨P, payload, appProgramId, hc, hv, rfl⟩ := resolvePacket_ok h
  exact ⟨P, hc, hv, rfl⟩

theorem timeoutPacket_ok {relayer : Pubkey} {hasRole : Bool} {msg : MsgTimeoutPacket} {remaining : List Bytes}
    {appProgram : Pubkey} {verify : NonMembershipMsg → Option UInt64} {onTimeout : Bool}
    (h : timeoutPacket H accts relayer hasRole msg remaining appProgram verify onTimeout = .ok (accts', evs)) :
    ∃ P, (view accts).commitment (srcKey P) = some (.commitment (Ics24.packetCommitmentBytes32 H P)) ∧
      view accts' = (view accts).setCommitment (srcKey P) (.commitment empty) ∧ trace evs = [.resolved P] := by
  obtain ⟨P, payload, appProgramId, hc, hv, rfl⟩ := resolvePacket_ok h
  exact ⟨P, hc, hv, rfl⟩

theorem uploadChunk_view {hasRole : Bool} {seeds : List Bytes} {isKind : Account → Bool} {chunkData : Bytes}
    {chunk : Account} (hoff : OffPacket seeds.flatten)
    (h : uploadChunk accts hasRole seeds isKind chunkData chunk = .ok (accts', evs)) :
    view accts' = view accts ∧ trace evs = [] := by
  simp only [uploadChunk, bind_eq_ok, require_eq_ok, exists_const, pure_eq_ok, Prod.mk.injEq] at h
  obtain ⟨_, -, key, hkey, -, -, -, rfl, rfl⟩ := h
  rw [address_eq_ok hkey]
  exact ⟨view_update_of_offPacket accts _ hoff, rfl⟩

theorem cleanupChunks_view {relayer : Pubkey} {hasRole : Bool} {msg : MsgCleanupChunks} {remaining : List Bytes}
    (h : cleanupChunks accts relayer hasRole msg remaining = .ok (accts', evs)) :
    view accts' = view accts ∧ trace evs = [] := by
  simp only [cleanupChunks, bind_eq_ok, require_eq_ok, exists_const, pure_eq_ok, Prod.mk.injEq] at h
  obtain ⟨_, -, -, accts₁, hclose, rfl, rfl⟩ := h
  refine ⟨forEachChunk_view none accts remaining _ ?_ hclose, rfl⟩
  -- every seed closed is a payload chunk's or a proof chunk's
  intro seeds hs
  simp only [cleanupSeeds, List.mem_append, List.mem_flatMap] at hs
  rcases hs with ⟨e, -, hpayload⟩ | hproof
  · exact payloadChunkSeedsList_offPacket _ _ _ _ _ seeds hpayload
  · exact proofChunkSeedsList_offPacket _ _ _ _ seeds hproof

theorem addClient_view {hasRole : Bool} {clientId : Bytes} {counterpartyInfo : CounterpartyInfo}
    {lightClientProgram : Pubkey}
    (h : addClient accts hasRole clientId counterpartyInfo lightClientProgram = .ok (accts', evs)) :
    view accts' = view accts ∧ trace evs = [] := by
  simp only [addClient, bind_eq_ok, require_eq_ok, exists_const, pure_eq_ok, Prod.mk.injEq] at h
  obtain ⟨_, -, key, hkey, -, -, -, -, rfl, rfl⟩ := h
  rw [address_eq_ok hkey]
  exact ⟨view_update_of_offPacket accts _ (offPacket_client clientId), rfl⟩

theorem migrateClient_view {isAdmin : Bool} {clientId : Bytes} {params : MigrateClientParams}
    (h : migrateClient accts isAdmin clientId params = .ok (accts', evs)) :
    view accts' = view accts ∧ trace evs = [] := by
  simp only [migrateClient, bind_eq_ok, require_eq_ok, exists_const, pure_eq_ok, Prod.mk.injEq] at h
  obtain ⟨_, -, key, hkey, client, -, -, -, -, -, rfl, rfl⟩ := h
  rw [address_eq_ok hkey]
  exact ⟨view_update_of_offPacket accts _ (offPacket_client clientId), rfl⟩

/-! ## The four effects -/

/-- What a successful instruction does to the packet accounts, with the lifecycle events it logs. -/
inductive Effect (H : Hashes) (v v' : PacketView) : List (PacketEvent Packet) → Prop
  /-- Nothing changes but acknowledgement accounts created empty; no lifecycle event. -/
  | quiet : v.Quiet v' → Effect H v v' []
  /-- `P`'s commitment account is created, holding its commitment. -/
  | send (P : Packet) : v.commitment (srcKey P) = none →
      v' = v.setCommitment (srcKey P) (.commitment (Ics24.packetCommitmentBytes32 H P)) → Effect H v v' [.sent P]
  /-- `P` is received: its empty receipt is written, and its acknowledgement. -/
  | recv (P : Packet) (r ackCommitment : Bytes) :
      (v.receipt (dstKey P) = none ∨ v.receipt (dstKey P) = some (.commitment empty)) →
      Ics24.packetReceiptCommitmentBytes32 H P = .ok r →
      v' = (v.setReceipt (dstKey P) (.commitment r)).setAck (dstKey P) (.commitment ackCommitment) →
      Effect H v v' [.received P, .acknowledged P]
  /-- `P` is resolved: its commitment, equal to `P`'s, is cleared. -/
  | resolve (P : Packet) : v.commitment (srcKey P) = some (.commitment (Ics24.packetCommitmentBytes32 H P)) →
      v' = v.setCommitment (srcKey P) (.commitment empty) → Effect H v v' [.resolved P]

theorem Effect.of_view_eq {v v' : PacketView} (h : v' = v) : Effect H v v' [] :=
  .quiet (h ▸ PacketView.quiet_refl v)

/-- Every successful instruction has one of the four effects. -/
theorem step_effect {i : Instruction} (h : step H accts i = .ok (accts', evs)) :
    Effect H (view accts) (view accts') (trace evs) := by
  cases i with
  | sendPacket unixTimestamp appCaller msg status =>
    obtain ⟨P, -, hnone, hv, htr⟩ := sendPacket_ok h
    exact htr ▸ .send P hnone hv
  | recvPacket unixTimestamp relayer hasRole msg remaining appProgram verify onRecv =>
    rcases recvPacket_ok h with ⟨hq, htr⟩ | ⟨P, r, ackCommitment, hr, hc, hv, htr⟩
    · exact htr ▸ .quiet hq
    · exact htr ▸ .recv P r ackCommitment hr hc hv
  | ackPacket relayer hasRole msg remaining appProgram verify onAck =>
    obtain ⟨P, hc, hv, htr⟩ := ackPacket_ok h
    exact htr ▸ .resolve P hc hv
  | timeoutPacket relayer hasRole msg remaining appProgram verify onTimeout =>
    obtain ⟨P, hc, hv, htr⟩ := timeoutPacket_ok h
    exact htr ▸ .resolve P hc hv
  | uploadPayloadChunk relayer hasRole msg =>
    obtain ⟨hv, htr⟩ := uploadChunk_view (offPacket_payloadChunk _ _ _ _ _) h
    exact htr ▸ Effect.of_view_eq hv
  | uploadProofChunk relayer hasRole msg =>
    obtain ⟨hv, htr⟩ := uploadChunk_view (offPacket_proofChunk _ _ _ _) h
    exact htr ▸ Effect.of_view_eq hv
  | cleanupChunks relayer hasRole msg remaining =>
    obtain ⟨hv, htr⟩ := cleanupChunks_view h
    exact htr ▸ Effect.of_view_eq hv
  | addClient hasRole clientId counterpartyInfo lightClientProgram =>
    obtain ⟨hv, htr⟩ := addClient_view h
    exact htr ▸ Effect.of_view_eq hv
  | migrateClient isAdmin clientId params =>
    obtain ⟨hv, htr⟩ := migrateClient_view h
    exact htr ▸ Effect.of_view_eq hv

/-! ## The invariant -/

/-- No packet account yet: the router as `initialize` leaves it, with any apps and clients. -/
def PacketView.Blank (v : PacketView) : Prop :=
  ∀ k, v.commitment k = none ∧ v.receipt k = none ∧ v.ack k = none

/-- What ties the packet accounts to the lifecycle trace of the log. -/
structure RouterInv (H : Hashes) (v : PacketView) (T : List (PacketEvent Packet)) : Prop where
  spec : Spec srcKey dstKey (Ics24.packetCommitmentBytes32 H) T
  /-- Nothing was sent under a key with no commitment account. -/
  fresh : ∀ k, v.commitment k = none → select PacketEvent.sent? srcKey k T = []
  /-- A live commitment is that of a packet sent under its key, which nothing resolved. -/
  committed : ∀ k c, v.commitment k = some (.commitment c) → c ≠ empty →
    (∃ P ∈ select PacketEvent.sent? srcKey k T, c = Ics24.packetCommitmentBytes32 H P) ∧
      select PacketEvent.resolved? srcKey k T = []
  /-- A received packet left a non-empty receipt. -/
  received : ∀ k, select PacketEvent.received? dstKey k T ≠ [] →
    ∃ r, v.receipt k = some (.commitment r) ∧ r ≠ empty
  /-- A non-empty acknowledgement sits beside a non-empty receipt. -/
  acknowledged : ∀ k a, v.ack k = some (.commitment a) → a ≠ empty →
    ∃ r, v.receipt k = some (.commitment r) ∧ r ≠ empty

theorem routerInv_init {v : PacketView} (hv : v.Blank) : RouterInv H v [] where
  spec := Spec.nil
  fresh _ _ := rfl
  committed k c hc := by simp [(hv k).1] at hc
  received _ h := absurd rfl h
  acknowledged k a ha := by simp [(hv k).2.2] at ha

theorem packetCommitmentBytes32_ne_empty (hsha : ∀ b, H.sha256 b ≠ zeroWord) (P : Packet) :
    Ics24.packetCommitmentBytes32 H P ≠ empty :=
  hsha _

theorem packetReceiptCommitmentBytes32_ne_empty (hkec : ∀ b, H.keccak256 b ≠ zeroWord) {P : Packet} {r : Bytes}
    (h : Ics24.packetReceiptCommitmentBytes32 H P = .ok r) : r ≠ empty := by
  unfold Ics24.packetReceiptCommitmentBytes32 at h
  split at h
  · cases h
    exact hkec _
  · cases h

variable {v v' : PacketView} {T : List (PacketEvent Packet)}

theorem routerInv_quiet (hinv : RouterInv H v T) (hq : v.Quiet v') : RouterInv H v' T where
  spec := hinv.spec
  fresh k hk := hinv.fresh k (hq.1 ▸ hk)
  committed k c hk := hinv.committed k c (hq.1 ▸ hk)
  received k hk := hq.2.1 ▸ hinv.received k hk
  acknowledged k a hk hne := by
    rw [hq.2.1]
    rcases hq.2.2 k with heq | ⟨-, hcreated⟩
    · exact hinv.acknowledged k a (heq ▸ hk) hne
    · rw [hcreated] at hk
      cases hk
      exact absurd rfl hne

theorem routerInv_send (hinv : RouterInv H v T) {P : Packet} (hnone : v.commitment (srcKey P) = none) :
    RouterInv H (v.setCommitment (srcKey P) (.commitment (Ics24.packetCommitmentBytes32 H P))) (T ++ [.sent P]) where
  spec := hinv.spec.append_sent P (hinv.fresh _ hnone)
  fresh k hk := by
    have hne : k ≠ srcKey P := by
      rintro rfl
      simp at hk
    rw [PacketView.setCommitment_commitment, Function.update_of_ne hne] at hk
    simp [select_singleton, PacketEvent.sent?, hinv.fresh k hk, Ne.symm hne]
  committed k c hk hc := by
    by_cases hkey : k = srcKey P
    · subst hkey
      -- the new account holds `P`'s commitment, and nothing was resolved under its key
      simp only [PacketView.setCommitment_commitment, Function.update_self, Option.some.injEq,
        Account.commitment.injEq] at hk
      have hres := hinv.spec.resolved_eq_nil (hinv.fresh _ hnone)
      refine ⟨⟨P, by simp [select_singleton, PacketEvent.sent?], hk.symm⟩, ?_⟩
      simp [select_singleton, PacketEvent.resolved?, hres]
    · rw [PacketView.setCommitment_commitment, Function.update_of_ne hkey] at hk
      obtain ⟨⟨P', hP', hc'⟩, hres⟩ := hinv.committed k c hk hc
      exact ⟨⟨P', by simp [hP'], hc'⟩, by simp [select_singleton, PacketEvent.resolved?, hres]⟩
  received k hk := hinv.received k (by simpa [select_singleton, PacketEvent.received?] using hk)
  acknowledged := hinv.acknowledged

theorem routerInv_recv (hkec : ∀ b, H.keccak256 b ≠ zeroWord) (hinv : RouterInv H v T) {P : Packet}
    {r ackCommitment : Bytes}
    (hempty : v.receipt (dstKey P) = none ∨ v.receipt (dstKey P) = some (.commitment empty))
    (hr : Ics24.packetReceiptCommitmentBytes32 H P = .ok r) :
    RouterInv H ((v.setReceipt (dstKey P) (.commitment r)).setAck (dstKey P) (.commitment ackCommitment))
      (T ++ [.received P, .acknowledged P]) := by
  have hrne : r ≠ empty := packetReceiptCommitmentBytes32_ne_empty hkec hr
  -- an empty receipt means nothing was received under the key
  have hfresh : select PacketEvent.received? dstKey (dstKey P) T = [] := by
    by_contra hne
    obtain ⟨r', hr', hr'ne⟩ := hinv.received _ hne
    rcases hempty with h | h <;> rw [h] at hr'
    · cases hr'
    · cases hr'
      exact hr'ne rfl
  have hwritten : ∀ k, k = dstKey P →
      ∃ r', Function.update v.receipt (dstKey P) (some (.commitment r)) k = some (.commitment r') ∧ r' ≠ empty := by
    rintro k rfl
    exact ⟨r, Function.update_self _ _ _, hrne⟩
  refine ⟨hinv.spec.append_received P hfresh, fun k hk => ?_, fun k c hk hc => ?_, fun k hk => ?_, fun k a hk hne => ?_⟩
  · simpa [select_pair, select_singleton, PacketEvent.sent?] using hinv.fresh k hk
  · simpa [select_pair, select_singleton, PacketEvent.sent?, PacketEvent.resolved?] using hinv.committed k c hk hc
  · simp only [PacketView.setAck_receipt, PacketView.setReceipt_receipt]
    by_cases hkey : k = dstKey P
    · exact hwritten k hkey
    · rw [Function.update_of_ne hkey]
      apply hinv.received k
      simpa [select_pair, select_singleton, PacketEvent.received?, Ne.symm hkey] using hk
  · simp only [PacketView.setAck_receipt, PacketView.setReceipt_receipt]
    by_cases hkey : k = dstKey P
    · exact hwritten k hkey
    · rw [Function.update_of_ne hkey]
      simp only [PacketView.setAck_ack, Function.update_of_ne hkey, PacketView.setReceipt_ack] at hk
      exact hinv.acknowledged k a hk hne

theorem routerInv_resolve (hsha : ∀ b, H.sha256 b ≠ zeroWord) (hinv : RouterInv H v T) {P : Packet}
    (hc : v.commitment (srcKey P) = some (.commitment (Ics24.packetCommitmentBytes32 H P))) :
    RouterInv H (v.setCommitment (srcKey P) (.commitment empty)) (T ++ [.resolved P]) := by
  obtain ⟨⟨P', hP', hcommit⟩, hres⟩ :=
    hinv.committed _ _ hc (packetCommitmentBytes32_ne_empty hsha P)
  refine ⟨hinv.spec.append_resolved P hres ⟨P', hP', hcommit.symm⟩, fun k hk => ?_, fun k c hk hne => ?_,
    fun k hk => ?_, hinv.acknowledged⟩
  · have hkey : k ≠ srcKey P := by
      rintro rfl
      simp at hk
    rw [PacketView.setCommitment_commitment, Function.update_of_ne hkey] at hk
    simpa [select_singleton, PacketEvent.sent?] using hinv.fresh k hk
  · by_cases hkey : k = srcKey P
    · -- the cleared account holds the empty commitment
      subst hkey
      simp only [PacketView.setCommitment_commitment, Function.update_self, Option.some.injEq,
        Account.commitment.injEq] at hk
      exact absurd hk.symm hne
    · rw [PacketView.setCommitment_commitment, Function.update_of_ne hkey] at hk
      obtain ⟨⟨Q, hQ, hcQ⟩, hresQ⟩ := hinv.committed k c hk hne
      exact ⟨⟨Q, by simp [hQ], hcQ⟩, by simp [select_singleton, PacketEvent.resolved?, hresQ, Ne.symm hkey]⟩
  · exact hinv.received k (by simpa [select_singleton, PacketEvent.received?] using hk)

theorem routerInv_effect (hsha : ∀ b, H.sha256 b ≠ zeroWord) (hkec : ∀ b, H.keccak256 b ≠ zeroWord)
    (hinv : RouterInv H v T) {E : List (PacketEvent Packet)} (he : Effect H v v' E) : RouterInv H v' (T ++ E) := by
  cases he with
  | quiet hq => simpa using routerInv_quiet hinv hq
  | send P hnone hv => exact hv ▸ routerInv_send hinv hnone
  | recv P r ackCommitment hempty hr hv => exact hv ▸ routerInv_recv hkec hinv hempty hr
  | resolve P hc hv => exact hv ▸ routerInv_resolve hsha hinv hc

/-! ## What one instruction may change -/

/-- A commitment account changes only when `send_packet` creates it with the commitment of the
packet it sends, or when the packet whose commitment it holds is resolved and it is cleared. -/
theorem effect_commitment {E : List (PacketEvent Packet)} (he : Effect H v v' E) (k : Bytes × UInt64)
    (hchange : v'.commitment k ≠ v.commitment k) :
    (v.commitment k = none ∧ ∃ P, PacketEvent.sent P ∈ E ∧ srcKey P = k ∧
        v'.commitment k = some (.commitment (Ics24.packetCommitmentBytes32 H P))) ∨
      ∃ P, PacketEvent.resolved P ∈ E ∧ srcKey P = k ∧
        v.commitment k = some (.commitment (Ics24.packetCommitmentBytes32 H P)) ∧
        v'.commitment k = some (.commitment empty) := by
  cases he with
  | quiet hq => exact absurd (congrFun hq.1 k) hchange
  | send P hnone hv =>
    subst hv
    by_cases hkey : k = srcKey P
    · subst hkey
      exact .inl ⟨hnone, P, List.mem_singleton_self _, rfl, Function.update_self _ _ _⟩
    · exact absurd (Function.update_of_ne hkey _ _) hchange
  | recv P r ackCommitment hempty hr hv =>
    subst hv
    exact absurd rfl hchange
  | resolve P hc hv =>
    subst hv
    by_cases hkey : k = srcKey P
    · subst hkey
      exact .inr ⟨P, List.mem_singleton_self _, rfl, hc, Function.update_self _ _ _⟩
    · exact absurd (Function.update_of_ne hkey _ _) hchange

/-- A non-empty receipt never changes. -/
theorem effect_receipt {E : List (PacketEvent Packet)} (he : Effect H v v' E) {k : Bytes × UInt64} {r : Bytes}
    (hk : v.receipt k = some (.commitment r)) (hr : r ≠ empty) : v'.receipt k = v.receipt k := by
  cases he with
  | quiet hq => exact congrFun hq.2.1 k
  | send P hnone hv => subst hv; rfl
  | recv P r' ackCommitment hempty hr' hv =>
    subst hv
    by_cases hkey : k = dstKey P
    · -- `recv_packet` writes only a receipt it found empty
      subst hkey
      rcases hempty with h | h <;> rw [h] at hk
      · cases hk
      · cases hk
        exact absurd rfl hr
    · exact Function.update_of_ne hkey _ _
  | resolve P hc hv => subst hv; rfl

/-- A non-empty acknowledgement commitment never changes. -/
theorem effect_ack (hinv : RouterInv H v T) {E : List (PacketEvent Packet)} (he : Effect H v v' E)
    {k : Bytes × UInt64} {a : Bytes} (hk : v.ack k = some (.commitment a)) (ha : a ≠ empty) :
    v'.ack k = v.ack k := by
  cases he with
  | quiet hq =>
    rcases hq.2.2 k with h | ⟨hnone, -⟩
    · exact h
    · rw [hnone] at hk
      cases hk
  | send P hnone hv => subst hv; rfl
  | recv P r ackCommitment hempty hr hv =>
    subst hv
    by_cases hkey : k = dstKey P
    · -- a non-empty acknowledgement sits beside a non-empty receipt, which `recv_packet` refuses
      subst hkey
      obtain ⟨r', hr', hr'ne⟩ := hinv.acknowledged _ a hk ha
      rcases hempty with h | h <;> rw [h] at hr'
      · cases hr'
      · cases hr'
        exact absurd rfl hr'ne
    · exact Function.update_of_ne hkey _ _
  | resolve P hc hv => subst hv; rfl

/-- A packet is resolved only while its key's account holds its commitment. -/
theorem effect_resolved {E : List (PacketEvent Packet)} (he : Effect H v v' E) {P : Packet}
    (hP : PacketEvent.resolved P ∈ E) :
    v.commitment (srcKey P) = some (.commitment (Ics24.packetCommitmentBytes32 H P)) := by
  cases he with
  | quiet hq => cases hP
  | send Q hnone hv => simp at hP
  | recv Q r ackCommitment hempty hr hv => simp at hP
  | resolve Q hc hv =>
    obtain rfl : P = Q := by simpa using hP
    exact hc

/-! ## Runs -/

/-- The accounts and the log a run of instructions reaches from the accounts `accts₀`. -/
def Reachable (H : Hashes) (accts₀ accts : Accounts) (log : List Event) : Prop :=
  ∃ is, exec (step H) (accts₀, []) is = (accts, log)

/-- **The invariant holds along every run** from accounts with no packet account. -/
theorem reachable_routerInv (hsha : ∀ b, H.sha256 b ≠ zeroWord) (hkec : ∀ b, H.keccak256 b ≠ zeroWord)
    {accts₀ : Accounts} {log : List Event} (hblank : (view accts₀).Blank) (hreach : Reachable H accts₀ accts log) :
    RouterInv H (view accts) (trace log) := by
  obtain ⟨is, hrun⟩ := hreach
  have := exec_induction (step H) (fun accts log => RouterInv H (view accts) (trace log))
    (fun _ _ _ _ _ hinv hok => by
      rw [trace_append]
      exact routerInv_effect hsha hkec hinv (step_effect hok)) is (accts₀, []) (routerInv_init hblank)
  rwa [hrun] at this

/-! ## The lifecycle of the Solana router -/

variable (H)

theorem solana_packet_lifecycle (hsha : ∀ b, H.sha256 b ≠ zeroWord) (hkec : ∀ b, H.keccak256 b ≠ zeroWord)
    {accts₀ : Accounts} {log : List Event} (hblank : (view accts₀).Blank) (hreach : Reachable H accts₀ accts log) :
    Spec srcKey dstKey (Ics24.packetCommitmentBytes32 H) (trace log) ∧
    ∀ i accts' evs, step H accts i = .ok (accts', evs) → ∀ k,
      ((view accts').commitment k ≠ (view accts).commitment k →
        ((view accts).commitment k = none ∧ ∃ P, PacketEvent.sent P ∈ trace evs ∧ srcKey P = k ∧
            (view accts').commitment k = some (.commitment (Ics24.packetCommitmentBytes32 H P))) ∨
          ∃ P, PacketEvent.resolved P ∈ trace evs ∧ srcKey P = k ∧
            (view accts).commitment k = some (.commitment (Ics24.packetCommitmentBytes32 H P)) ∧
            (view accts').commitment k = some (.commitment empty)) ∧
      (∀ P, PacketEvent.resolved P ∈ trace evs →
        (view accts).commitment (srcKey P) = some (.commitment (Ics24.packetCommitmentBytes32 H P))) ∧
      (∀ r, (view accts).receipt k = some (.commitment r) → r ≠ empty →
        (view accts').receipt k = (view accts).receipt k) ∧
      (∀ a, (view accts).ack k = some (.commitment a) → a ≠ empty → (view accts').ack k = (view accts).ack k) := by
  have hinv := reachable_routerInv hsha hkec hblank hreach
  refine ⟨hinv.spec, fun i accts' evs h k => ?_⟩
  have he := step_effect h
  exact ⟨effect_commitment he k, fun P hP => effect_resolved he hP, fun r hk hr => effect_receipt he hk hr,
    fun a hk ha => effect_ack hinv he hk ha⟩

/-- SHA-256 and Keccak-256 stood in for by functions that never give the zero word. -/
def tagHashes : Hashes := ⟨fun b => 1 :: b, fun b => 1 :: b⟩

theorem tagHashes_ne_zeroWord (b : Bytes) : (1 :: b : Bytes) ≠ zeroWord := by
  intro h
  have := congrArg List.head? h
  simp [zeroWord] at this

/-- Accounts with the router unpaused, the application of port `p` and the client `c0`, whose
counterparty is `d0`. -/
def sampleAccounts : Accounts :=
  ((Accounts.set (fun _ => none) [routerStateSeed].flatten (.routerState false)).set
    [ibcAppSeed, [0x70]].flatten (.ibcApp ⟨[0x70], [7]⟩)).set [clientSeed, [0x63, 0x30]].flatten
    (.client ⟨[0x63, 0x30], [9], ⟨[0x64, 0x30], [[0x69]]⟩, true⟩)

theorem sampleAccounts_blank : (view sampleAccounts).Blank := by
  have hrouter : OffPacket [routerStateSeed].flatten := offPacket_of_seed 1 (by decide) (by decide) (by decide)
  have happ : OffPacket [ibcAppSeed, [0x70]].flatten := offPacket_of_seed 1 (by decide) (by decide) (by decide)
  simp only [sampleAccounts, Accounts.set, view_update_of_offPacket _ _ (offPacket_client _),
    view_update_of_offPacket _ _ happ, view_update_of_offPacket _ _ hrouter]
  exact fun _ => ⟨rfl, rfl, rfl⟩

/-- The packet `c0`/1 from port `p` to port `q`, timing out at 100. -/
def samplePacket : Packet := ⟨1, [0x63, 0x30], [0x64, 0x30], 100, [⟨[0x70], [0x71], [], [], [0x2a]⟩]⟩

/-- The application sends `samplePacket` at time 10, and a relayer times it out with a proof that
the counterparty's time is 100. -/
def sampleRun : List Instruction :=
  [.sendPacket 10 [7] ⟨[0x63, 0x30], 1, 100, ⟨[0x70], [0x71], [], [], [0x2a]⟩⟩ (some .Active),
    .timeoutPacket [5] true ⟨⟨1, [0x63, 0x30], [0x64, 0x30], 100, [⟨[0x70], [0x71], [], [], .inline [0x2a]⟩]⟩,
      ⟨1, .inline []⟩⟩ [] [7] (fun _ => some 100) true]

theorem solana_packet_lifecycle_sample :
    (∀ b, tagHashes.sha256 b ≠ zeroWord) ∧ (∀ b, tagHashes.keccak256 b ≠ zeroWord) ∧ (view sampleAccounts).Blank ∧
      Reachable tagHashes sampleAccounts (exec (step tagHashes) (sampleAccounts, []) sampleRun).1
        (exec (step tagHashes) (sampleAccounts, []) sampleRun).2 ∧
      trace (exec (step tagHashes) (sampleAccounts, []) sampleRun).2 = [.sent samplePacket, .resolved samplePacket] ∧
      Spec srcKey dstKey (Ics24.packetCommitmentBytes32 tagHashes)
        (trace (exec (step tagHashes) (sampleAccounts, []) sampleRun).2) := by
  have hreach : Reachable tagHashes sampleAccounts (exec (step tagHashes) (sampleAccounts, []) sampleRun).1
      (exec (step tagHashes) (sampleAccounts, []) sampleRun).2 := ⟨sampleRun, rfl⟩
  exact ⟨tagHashes_ne_zeroWord, tagHashes_ne_zeroWord, sampleAccounts_blank, hreach, by decide,
    (solana_packet_lifecycle tagHashes tagHashes_ne_zeroWord tagHashes_ne_zeroWord sampleAccounts_blank hreach).1⟩

end Ics26Router
