/-
# ICS20 refunds on Ethereum: what a refund gives back

A transfer out of `ICS20Transfer` moves the sender's tokens into the escrow
of the source client, and burns them there when the token is a voucher going
back over the client it came from; the packet names the token by its denom
path, or by its hex string for a native token (`sentPacketData`). A timeout,
or an acknowledgement that is the universal error, refunds: a voucher burnt
on its way is minted back into the escrow, and the escrow sends the amount to
the sender the packet names.

The calls into tokens get the standard semantics of a fungible token
(`applyOutput`, over `Fungible.Token`). Escrows and registered contracts
stay once set (`Settled`, `run_settled`). When the refund finds the token
the transfer moved, it undoes the transfer: the token's balances and supply
are again what they were before it, and it mints back exactly when the
transfer burnt (`refund_restores`). It finds that token when the denom maps
are inverse, OpenZeppelin's hex strings of addresses start with `0x` and
parse back, the packet's data decodes to itself, and no token is registered
under the hex string of a native token by the time of the refund. The last is
not checked by `setCustomERC20`: registered under that denom, a custom token
is what the refund of the native token sends
(`custom_hex_denom_diverts_refund`).

Key definitions: `ICS20Transfer.applyOutput`, `ICS20Transfer.sentPacketData`,
`ICS20Transfer.Settled`, `ICS20Transfer.Call.Refunds`.
Key theorems: `ICS20Transfer.sendTransfer_eq_ok`, `ICS20Transfer.refundTokens_eq_ok`,
`ICS20Transfer.run_settled`, `ICS20Transfer.refund_outputs`, `ICS20Transfer.refund_restores`.
-/
import IbcEureka.Solidity.ICS20Transfer
import IbcEureka.Lib.Fungible
import IbcEureka.Lib.HeightMap

namespace ICS20Transfer

open Txn Fungible HeightMap

/-! ## Token calls with the standard semantics -/

/-- What a call of the contract does to the tokens' ledgers, with a token's standard semantics:
`safeTransferFrom`, permit2's transfer and `escrow.send` transfer, `mint` and `burn` mint and
burn; the escrow's callback, the router, the sender's hooks and the events leave every ledger. -/
def applyOutput (L : Address → Token Address) : Output → Option (Address → Token Address)
  | .transferFrom token owner escrow amount => ((L token).transfer owner escrow amount).map (Function.update L token)
  | .permit2TransferFrom token owner escrow amount =>
    ((L token).transfer owner escrow amount).map (Function.update L token)
  | .escrowRecvCallback _ _ _ _ => some L
  | .burn token holder amount => ((L token).burn holder amount).map (Function.update L token)
  | .mint token recipient amount => some (Function.update L token ((L token).mint recipient amount))
  | .escrowSend escrow token recipient amount =>
    ((L token).transfer escrow recipient amount).map (Function.update L token)
  | .sendPacket _ _ _ => some L
  | .ackPacketCallback _ _ => some L
  | .timeoutPacketCallback _ => some L
  | .IBCERC20ContractCreated _ _ => some L
  | .acknowledgement _ => some L

/-- The calls of a transaction, in order: `none` when a token call fails. -/
def applyOutputs (L : Address → Token Address) (outs : List Output) : Option (Address → Token Address) :=
  outs.foldlM applyOutput L

section Ledger

variable {L L' : Address → Token Address}

theorem applyOutputs_cons_eq_some {o : Output} {outs : List Output} :
    applyOutputs L (o :: outs) = some L' ↔ ∃ L₁, applyOutput L o = some L₁ ∧ applyOutputs L₁ outs = some L' := by
  simp only [applyOutputs, List.foldlM_cons]
  exact Option.bind_eq_some_iff

theorem applyOutputs_append_eq_some {outs outs' : List Output} :
    applyOutputs L (outs ++ outs') = some L' ↔
      ∃ L₁, applyOutputs L outs = some L₁ ∧ applyOutputs L₁ outs' = some L' := by
  simp only [applyOutputs, List.foldlM_append]
  exact Option.bind_eq_some_iff

theorem applyOutputs_singleton {o : Output} : applyOutputs L [o] = applyOutput L o := by
  simp only [applyOutputs, List.foldlM_cons, List.foldlM_nil]
  cases applyOutput L o <;> rfl

theorem applyOutput_update {token : Address} {T : Option (Token Address)}
    (h : T.map (Function.update L token) = some L') : ∃ T', T = some T' ∧ L' token = T' := by
  obtain ⟨T', hT, rfl⟩ := Option.map_eq_some_iff.mp h
  exact ⟨T', hT, Function.update_self _ _ _⟩

theorem applyOutputs_quiet {o : Output} (ho : ∀ L, applyOutput L o = some L) (h : applyOutputs L [o] = some L') :
    L' = L := by
  rw [applyOutputs_singleton, ho, Option.some.injEq] at h
  exact h.symm

variable {token owner escrow : Address} {amount : ℕ}

/-- The token calls of a transfer out, on the token's ledger: the transfer into the escrow, then
the burn there when there is one. -/
theorem applyOutputs_transfer_out {burns : Bool} {o₁ o₂ : Output} (ho₁ : ∀ L, applyOutput L o₁ = some L)
    (ho₂ : ∀ L, applyOutput L o₂ = some L)
    (h : applyOutputs L ([.transferFrom token owner escrow amount, o₁] ++
      (if burns then [.burn token escrow amount] else []) ++ [o₂]) = some L') :
    ∃ T, (L token).transfer owner escrow amount = some T ∧
      (if burns then T.burn escrow amount else some T) = some (L' token) := by
  obtain ⟨L₁, h₁, h₂⟩ := applyOutputs_append_eq_some.mp h
  obtain rfl := applyOutputs_quiet ho₂ h₂
  obtain ⟨L₂, h₂, h₃⟩ := applyOutputs_append_eq_some.mp h₁
  obtain ⟨L₃, htransfer, h₄⟩ := applyOutputs_cons_eq_some.mp h₂
  obtain rfl := applyOutputs_quiet ho₁ h₄
  obtain ⟨T, hT, hL₃⟩ := applyOutput_update htransfer
  refine ⟨T, hT, ?_⟩
  cases burns
  · -- nothing burnt: the ledger is the one after the transfer
    rw [if_neg Bool.false_ne_true] at h₃ ⊢
    cases h₃
    rw [hL₃]
  · rw [if_pos rfl] at h₃ ⊢
    rw [applyOutputs_singleton] at h₃
    obtain ⟨T', hT', hL₁⟩ := applyOutput_update h₃
    rw [← hL₃, hT', hL₁]

/-- The token calls of a refund, on the token's ledger: the mint back into the escrow when there
is one, then the escrow's transfer to the refundee. -/
theorem applyOutputs_refund {mints : Bool} {o : Output} (ho : ∀ L, applyOutput L o = some L)
    (h : applyOutputs L ((if mints then [.mint token escrow amount] else []) ++
      [.escrowSend escrow token owner amount, o]) = some L') :
    (if mints then (L token).mint escrow amount else L token).transfer escrow owner amount = some (L' token) := by
  obtain ⟨L₁, h₁, h₂⟩ := applyOutputs_append_eq_some.mp h
  obtain ⟨L₂, hsend, h₃⟩ := applyOutputs_cons_eq_some.mp h₂
  obtain rfl := applyOutputs_quiet ho h₃
  obtain ⟨T, hT, hL₂⟩ := applyOutput_update hsend
  rw [hL₂, ← hT]
  cases mints
  · -- nothing minted: the send reads the ledger the refund started from
    rw [if_neg Bool.false_ne_true] at h₁ ⊢
    cases h₁
    rfl
  · rw [if_pos rfl, applyOutputs_singleton] at h₁
    cases h₁
    rw [if_pos rfl, Function.update_self]

/-- **A transfer out is undone by its refund**, on the token's ledger: the mint back gives the
escrow what the burn took, and the transfer back gives the owner what the transfer took. Other
ledgers may change in between; this one may not. -/
theorem applyOutputs_round_trip {L₁ L₂ L₃ : Address → Token Address} {burns : Bool} {o₁ o₂ o₃ : Output}
    (ho₁ : ∀ L, applyOutput L o₁ = some L) (ho₂ : ∀ L, applyOutput L o₂ = some L)
    (ho₃ : ∀ L, applyOutput L o₃ = some L)
    (h₁ : applyOutputs L ([.transferFrom token owner escrow amount, o₁] ++
      (if burns then [.burn token escrow amount] else []) ++ [o₂]) = some L₁)
    (h₂ : L₂ token = L₁ token)
    (h₃ : applyOutputs L₂ ((if burns then [.mint token escrow amount] else []) ++
      [.escrowSend escrow token owner amount, o₃]) = some L₃) :
    L₃ token = L token := by
  obtain ⟨T, hT, hburn⟩ := applyOutputs_transfer_out ho₁ ho₂ h₁
  have hback := applyOutputs_refund ho₃ h₃
  -- the refund starts from what the transfer left in the escrow
  have hT' : (if burns then (L₂ token).mint escrow amount else L₂ token) = T := by
    rw [h₂]
    cases burns
    · rw [if_neg Bool.false_ne_true] at hburn ⊢
      exact (Option.some.inj hburn).symm
    · rw [if_pos rfl] at hburn ⊢
      exact Token.burn_mint hburn
  rw [hT', Token.transfer_back hT, Option.some.injEq] at hback
  exact hback.symm

end Ledger

/-! ## The transfer out and the refund, taken apart -/

variable (X : Externals) (H : Hashes)

/-- The packet data `_sendTransferFromEscrowWithSender` builds for `msg` sent by `sender`: the
token's denom path, or its hex string for a native token. -/
def sentPacketData (s : ICS20TransferStorage) (msg : SendTransferMsg) (sender : Address) :
    FungibleTokenPacketData :=
  ⟨if s.ibcERC20Denoms msg.denom = [] then X.toHexString msg.denom else s.ibcERC20Denoms msg.denom,
    X.toHexString sender, msg.receiver, msg.amount, msg.memo⟩

@[simp] theorem sentPacketData_sender (s : ICS20TransferStorage) (msg : SendTransferMsg) (sender : Address) :
    (sentPacketData X s msg sender).sender = X.toHexString sender := rfl

@[simp] theorem sentPacketData_amount (s : ICS20TransferStorage) (msg : SendTransferMsg) (sender : Address) :
    (sentPacketData X s msg sender).amount = msg.amount := rfl

/-- The branch of `_sendTransferFromEscrowWithSender` that burns: a mapped token whose path starts
with this side's port and the source client. -/
def returningToSource (s : ICS20TransferStorage) (msg : SendTransferMsg) : Bool :=
  s.ibcERC20Denoms msg.denom != [] &&
    IBCIdentifiers.hasPrefix H (s.ibcERC20Denoms msg.denom) (getDenomPrefix defaultPortId msg.sourceClient)

/-- A call that refunds the packet sent over `sourceClient` with `payload`: its timeout, or its
acknowledgement with the universal error. -/
def Call.Refunds (sourceClient : Bytes) (payload : Payload) : Call → Prop
  | .onTimeoutPacket msg => msg.sourceClient = sourceClient ∧ msg.payload = payload
  | .onAcknowledgementPacket msg =>
    msg.sourceClient = sourceClient ∧ msg.payload = payload ∧ msg.acknowledgement = ICS26Router.universalErrorAck
  | _ => False

section Specs

variable {X H} {env : Env} {s s' : ICS20TransferStorage} {msg : SendTransferMsg} {outs : List Output}

theorem sendTransferFromEscrowWithSender_eq_ok {escrow sender : Address}
    (h : sendTransferFromEscrowWithSender X H env s msg escrow sender = .ok outs) :
    outs = (if returningToSource H s msg then [.burn msg.denom escrow msg.amount] else []) ++
      [.sendPacket msg.sourceClient msg.timeoutTimestamp
        ⟨defaultPortId, defaultPortId, ics20Version, ics20Encoding, (sentPacketData X s msg sender).encode⟩] := by
  unfold sendTransferFromEscrowWithSender at h
  by_cases hnative : s.ibcERC20Denoms msg.denom = []
  · -- a native token: named by its hex string, nothing burnt
    simp only [hnative, if_true, bind_eq_ok, pure_eq_ok, external_eq_ok] at h
    obtain ⟨_, rfl, _, ⟨-, rfl⟩, rfl⟩ := h
    simp [returningToSource, sentPacketData, hnative]
  · rw [if_neg hnative] at h
    by_cases hpfx : IBCIdentifiers.hasPrefix H (s.ibcERC20Denoms msg.denom)
        (getDenomPrefix defaultPortId msg.sourceClient) = true
    · simp only [hpfx, if_true, bind_eq_ok, pure_eq_ok, external_eq_ok] at h
      obtain ⟨_, ⟨-, rfl⟩, ⟨_, _⟩, hpair, _, ⟨-, rfl⟩, rfl⟩ := h
      obtain ⟨rfl, rfl⟩ := Prod.mk.inj hpair
      simp [returningToSource, sentPacketData, hnative, hpfx]
    · simp only [hpfx, Bool.false_eq_true, if_false, bind_eq_ok, pure_eq_ok, external_eq_ok] at h
      obtain ⟨_, rfl, _, ⟨-, rfl⟩, rfl⟩ := h
      simp [returningToSource, sentPacketData, hnative, hpfx]

theorem sentPacketData_congr (hdenoms : s'.ibcERC20Denoms = s.ibcERC20Denoms) (sender : Address) :
    sentPacketData X s' msg sender = sentPacketData X s msg sender := by
  simp only [sentPacketData, hdenoms]

theorem returningToSource_congr (hdenoms : s'.ibcERC20Denoms = s.ibcERC20Denoms) :
    returningToSource H s' msg = returningToSource H s msg := by
  simp only [returningToSource, hdenoms]

/-- **A transfer out, taken apart.** The amount is positive; the source client's escrow is got or
deployed; the tokens move from the caller into it, directly or through permit2, the escrow is told,
a voucher going home is burnt there, and the packet carries `sentPacketData`. -/
theorem sendTransferFrom_eq_ok {viaPermit2 : Bool} {sender : Address}
    (h : sendTransferFrom X H env s msg viaPermit2 sender = .ok (s', outs)) :
    0 < msg.amount ∧ s' = (getOrCreateEscrow X s msg.sourceClient).2 ∧
      outs = [if viaPermit2 then .permit2TransferFrom msg.denom env.sender (s'.escrows msg.sourceClient) msg.amount
          else .transferFrom msg.denom env.sender (s'.escrows msg.sourceClient) msg.amount,
        .escrowRecvCallback (s'.escrows msg.sourceClient) msg.denom env.sender msg.amount] ++
        (if returningToSource H s msg then [.burn msg.denom (s'.escrows msg.sourceClient) msg.amount] else []) ++
        [.sendPacket msg.sourceClient msg.timeoutTimestamp
          ⟨defaultPortId, defaultPortId, ics20Version, ics20Encoding, (sentPacketData X s msg sender).encode⟩] := by
  unfold sendTransferFrom at h
  rw [require_bind_eq_ok] at h
  obtain ⟨hpos, h⟩ := h
  rcases he : getOrCreateEscrow X s msg.sourceClient with ⟨escrow, s₁⟩
  rw [he] at h
  simp only [bind_eq_ok, pure_eq_ok, Prod.mk.injEq, external_eq_ok] at h
  obtain ⟨_, ⟨-, rfl⟩, _, ⟨-, rfl⟩, sent, hsent, rfl, rfl⟩ := h
  -- the escrow is the client's afterwards, and the denom map is as it was
  have hescrow : s₁.escrows msg.sourceClient = escrow := by
    have := getOrCreateEscrow_escrows (X := X) (s := s) msg.sourceClient
    rwa [he] at this
  have hdenoms : s₁.ibcERC20Denoms = s.ibcERC20Denoms := by
    have := (getOrCreateEscrow_maps (X := X) (s := s) msg.sourceClient).2.1
    rwa [he] at this
  rw [sendTransferFromEscrowWithSender_eq_ok hsent, returningToSource_congr hdenoms,
    sentPacketData_congr hdenoms, hescrow]
  refine ⟨hpos, rfl, ?_⟩
  cases viaPermit2 <;> simp

theorem sendTransfer_eq_ok (h : sendTransfer X H env s msg = .ok (s', outs)) :
    sendTransferFrom X H env s msg false env.sender = .ok (s', outs) := by
  simp only [sendTransfer, whenNotPaused, require_bind_eq_ok] at h
  exact h.2

/-- **A refund, taken apart.** The client has an escrow and the packet's sender parses to the
refundee; a token going home is minted back into the escrow, and the escrow sends the amount to
the refundee. The token is the one registered for the denom; failing one, the denom parsed as an
address, on a denom that is not going home. -/
theorem refundTokens_eq_ok {sourcePort sourceClient : Bytes} {packetData : FungibleTokenPacketData}
    {refundee : Address} (h : refundTokens X H env s sourcePort sourceClient packetData = .ok (refundee, outs)) :
    s.escrows sourceClient ≠ 0 ∧ X.tryParseAddress packetData.sender = some refundee ∧
      ∃ erc20Address,
        outs = (if IBCIdentifiers.hasPrefix H packetData.denom (getDenomPrefix sourcePort sourceClient) then
            [.mint erc20Address (s.escrows sourceClient) packetData.amount] else []) ++
          [.escrowSend (s.escrows sourceClient) erc20Address refundee packetData.amount] ∧
        (s.ibcERC20Contracts packetData.denom ≠ 0 → erc20Address = s.ibcERC20Contracts packetData.denom) ∧
        (s.ibcERC20Contracts packetData.denom = 0 →
          IBCIdentifiers.hasPrefix H packetData.denom (getDenomPrefix sourcePort sourceClient) = false ∧
          X.tryParseAddress packetData.denom = some erc20Address) := by
  unfold refundTokens at h
  simp only [mustHexStringToAddress, bind_eq_ok, require_eq_ok, exists_const, expect_eq_ok] at h
  obtain ⟨hescrow, refundee', hsender, h⟩ := h
  refine ⟨hescrow, ?_⟩
  by_cases hpfx : IBCIdentifiers.hasPrefix H packetData.denom (getDenomPrefix sourcePort sourceClient) = true
  · -- going home: the registered voucher, minted back
    rw [if_pos hpfx] at h
    simp only [bind_eq_ok, require_eq_ok, exists_const, pure_eq_ok, external_eq_ok, Prod.mk.injEq] at h
    obtain ⟨hne, minted, ⟨-, hminted⟩, ⟨erc20Address, minted'⟩, hpair, sent, ⟨-, hsent⟩, hr, hout⟩ := h
    obtain ⟨rfl, rfl⟩ := Prod.mk.inj hpair
    subst hminted hsent hr hout
    refine ⟨hsender, _, ?_, fun _ => rfl, fun h0 => absurd h0 hne⟩
    simp [hpfx]
  · rw [if_neg hpfx] at h
    by_cases hzero : s.ibcERC20Contracts packetData.denom = 0
    · -- no entry: the denom is the token's address
      rw [if_pos hzero] at h
      simp only [bind_eq_ok, require_eq_ok, exists_const, expect_eq_ok, pure_eq_ok, external_eq_ok,
        Prod.mk.injEq] at h
      obtain ⟨erc20Address, hparse, -, _, rfl, sent, ⟨-, hsent⟩, hr, hout⟩ := h
      subst hsent hr hout
      refine ⟨hsender, erc20Address, ?_, fun h0 => absurd hzero h0, fun _ => ⟨by simpa using hpfx, hparse⟩⟩
      simp [hpfx]
    · rw [if_neg hzero] at h
      simp only [bind_eq_ok, pure_eq_ok, external_eq_ok, Prod.mk.injEq] at h
      obtain ⟨_, rfl, sent, ⟨-, hsent⟩, hr, hout⟩ := h
      subst hsent hr hout
      refine ⟨hsender, _, ?_, fun _ => rfl, fun h0 => absurd h0 hzero⟩
      simp [hpfx]

theorem onTimeoutPacket_eq_ok {m : OnRecvPacketCallback} (h : onTimeoutPacket X H env s m = .ok (s', outs)) :
    s' = s ∧ ∃ packetData refundee refunded, X.decodePacketData m.payload.value = some packetData ∧
      refundTokens X H env s m.payload.sourcePort m.sourceClient packetData = .ok (refundee, refunded) ∧
      outs = refunded ++ [.timeoutPacketCallback refundee] := by
  unfold onTimeoutPacket at h
  simp only [onlyRouter, whenNotPaused, bind_eq_ok, require_eq_ok, exists_const, expect_eq_ok, pure_eq_ok,
    external_eq_ok, Prod.mk.injEq] at h
  obtain ⟨-, -, packetData, hdec, ⟨refundee, refunded⟩, hrefund, _, ⟨-, rfl⟩, rfl, rfl⟩ := h
  exact ⟨rfl, packetData, refundee, refunded, hdec, hrefund, rfl⟩

/-- An acknowledgement that is the universal error writes nothing, and refunds the packet's data. -/
theorem onAcknowledgementPacket_eq_ok_of_error {m : OnAcknowledgementPacketCallback}
    (hack : m.acknowledgement = ICS26Router.universalErrorAck)
    (h : onAcknowledgementPacket X H env s m = .ok (s', outs)) :
    s' = s ∧ ∃ packetData refundee refunded, X.decodePacketData m.payload.value = some packetData ∧
      refundTokens X H env s m.payload.sourcePort m.sourceClient packetData = .ok (refundee, refunded) ∧
      outs = refunded ++ [.ackPacketCallback refundee false] := by
  unfold onAcknowledgementPacket at h
  simp only [onlyRouter, whenNotPaused, bind_eq_ok, require_eq_ok, exists_const, expect_eq_ok, hack,
    if_true] at h
  obtain ⟨-, -, packetData, hdec, ⟨refundee, refunded⟩, hrefund, h⟩ := h
  simp only [pure_eq_ok, external_eq_ok, Prod.mk.injEq] at h
  obtain ⟨_, ⟨-, rfl⟩, rfl, rfl⟩ := h
  exact ⟨rfl, packetData, refundee, refunded, hdec, hrefund, rfl⟩

/-- **A refund call, taken apart**: it writes nothing, refunds the data the payload decodes to,
and ends with the callback of a timeout or of a failed acknowledgement to the refundee. -/
theorem step_refund_eq_ok {sourceClient : Bytes} {payload : Payload} {call : Call}
    (hcall : call.Refunds sourceClient payload) (h : step X H s (env, call) = .ok (s', outs)) :
    s' = s ∧ ∃ packetData refundee refunded callback, X.decodePacketData payload.value = some packetData ∧
      refundTokens X H env s payload.sourcePort sourceClient packetData = .ok (refundee, refunded) ∧
      outs = refunded ++ [callback] ∧
      (callback = .timeoutPacketCallback refundee ∨ callback = .ackPacketCallback refundee false) := by
  cases call with
  | onTimeoutPacket m =>
    obtain ⟨rfl, rfl⟩ := hcall
    obtain ⟨hs, packetData, refundee, refunded, hdec, hrefund, rfl⟩ := onTimeoutPacket_eq_ok h
    exact ⟨hs, packetData, refundee, refunded, _, hdec, hrefund, rfl, .inl rfl⟩
  | onAcknowledgementPacket m =>
    obtain ⟨rfl, rfl, hack⟩ := hcall
    obtain ⟨hs, packetData, refundee, refunded, hdec, hrefund, rfl⟩ := onAcknowledgementPacket_eq_ok_of_error hack h
    exact ⟨hs, packetData, refundee, refunded, _, hdec, hrefund, rfl, .inr rfl⟩
  | _ => exact hcall.elim

end Specs

/-! ## Escrows and registered contracts stay -/

/-- `s'` keeps every escrow and every registered contract of `s`. -/
structure Settled (s s' : ICS20TransferStorage) : Prop where
  escrows : Keeps (· ≠ 0) s.escrows s'.escrows
  contracts : Keeps (· ≠ 0) s.ibcERC20Contracts s'.ibcERC20Contracts

section Settled

variable {X H} {s s' : ICS20TransferStorage} {outs : List Output}

theorem Settled.refl (s : ICS20TransferStorage) : Settled s s := ⟨Keeps.refl _, Keeps.refl _⟩

theorem Settled.trans {s₁ s₂ s₃ : ICS20TransferStorage} (h₁ : Settled s₁ s₂) (h₂ : Settled s₂ s₃) :
    Settled s₁ s₃ :=
  ⟨h₁.escrows.trans h₂.escrows, h₁.contracts.trans h₂.contracts⟩

/-- Storage that differs in the pause flag only. -/
theorem settled_of_maps (hescrows : s'.escrows = s.escrows)
    (hcontracts : s'.ibcERC20Contracts = s.ibcERC20Contracts) : Settled s s' := by
  constructor
  · rw [hescrows]
    exact Keeps.refl _
  · rw [hcontracts]
    exact Keeps.refl _

/-- An escrow is deployed only for a client without one. -/
theorem getOrCreateEscrow_settled (clientId : Bytes) : Settled s (getOrCreateEscrow X s clientId).2 := by
  by_cases h : s.escrows clientId = 0
  · rw [getOrCreateEscrow_of_eq h]
    exact ⟨keeps_update _ (fun hne => hne h) _, Keeps.refl _⟩
  · rw [getOrCreateEscrow_of_ne h]
    exact Settled.refl s

/-- A voucher is registered only for a path without one. -/
theorem getOrCreateIBCERC20_settled (p : Bytes) : Settled s (getOrCreateIBCERC20 X s p).2.1 := by
  by_cases h : s.ibcERC20Contracts p = 0
  · rw [getOrCreateIBCERC20_of_eq h]
    exact ⟨Keeps.refl _, keeps_update _ (fun hne => hne h) _⟩
  · rw [getOrCreateIBCERC20_of_ne h]
    exact Settled.refl s

/-- **No call replaces an escrow or a registered contract.** -/
theorem step_settled {c : Env × Call} (h : step X H s c = .ok (s', outs)) : Settled s s' := by
  obtain ⟨env, call⟩ := c
  cases call with
  | sendTransfer msg =>
    rw [sendTransfer_storage h]
    exact getOrCreateEscrow_settled _
  | sendTransferWithPermit2 msg permitToken =>
    rw [sendTransferWithPermit2_storage h]
    exact getOrCreateEscrow_settled _
  | sendTransferWithSender msg sender =>
    rw [sendTransferWithSender_storage h]
    exact getOrCreateEscrow_settled _
  | setCustomERC20 denom token =>
    -- the denom had no contract
    obtain ⟨-, hc, -, rfl, -⟩ := setCustomERC20_eq_ok.mp h
    exact ⟨Keeps.refl _, keeps_update _ (fun hne => hne hc) _⟩
  | onRecvPacket msg =>
    obtain ⟨-, packetData, receiver, escrow, s₁, -, he, hhome, hother⟩ := onRecvPacket_eq_ok h
    have h₁ : Settled s s₁ := by
      have := getOrCreateEscrow_settled (X := X) (s := s) msg.destinationClient
      rwa [he] at this
    cases hp : IBCIdentifiers.hasPrefix H packetData.denom (getDenomPrefix msg.payload.sourcePort msg.sourceClient)
    · obtain ⟨voucher, created, hg, -⟩ := hother hp
      have h₂ := getOrCreateIBCERC20_settled (X := X) (s := s₁)
        (getDenomPrefix msg.payload.destPort msg.destinationClient ++ packetData.denom)
      rw [hg] at h₂
      exact h₁.trans h₂
    · rw [hhome hp]
      exact h₁
  | onAcknowledgementPacket msg =>
    rw [onAcknowledgementPacket_storage h]
    exact Settled.refl s
  | onTimeoutPacket msg =>
    rw [onTimeoutPacket_storage h]
    exact Settled.refl s
  | pause =>
    rw [setPaused_storage h]
    exact settled_of_maps rfl rfl
  | unpause =>
    rw [setPaused_storage h]
    exact settled_of_maps rfl rfl

/-- Along every run, escrows and registered contracts stay. -/
theorem run_settled (calls : List (Env × Call)) (s : ICS20TransferStorage) (log : List Output) :
    Settled s (exec (step X H) (s, log) calls).1 :=
  exec_rel (step X H) (fun _ _ => True) Settled (fun _ _ _ _ _ _ _ => trivial) Settled.refl
    (fun _ _ _ => Settled.trans) (fun _ _ _ _ _ _ h => step_settled h) calls (s, log) trivial

end Settled

/-! ## The refund undoes the transfer -/

section Refund

variable {X H}

theorem getDenomPrefix_head? (clientId : Bytes) : (getDenomPrefix defaultPortId clientId).head? = some 0x74 := rfl

/-- A hex string, which starts with `0`, never starts with a denom prefix of the port `transfer`:
the refund of a native token never takes it for a voucher going home. -/
theorem hasPrefix_hex_eq_false (hk : Function.Injective H.keccak256) {b : Bytes} (hb : b.head? = some 0x30)
    (clientId : Bytes) : IBCIdentifiers.hasPrefix H b (getDenomPrefix defaultPortId clientId) = false := by
  unfold IBCIdentifiers.hasPrefix
  split
  · rfl
  · rw [beq_eq_false_iff_ne]
    intro heq
    -- equal hashes give equal bytes, which differ in the first
    have htake := congrArg List.head? (hk heq)
    rw [List.head?_take, getDenomPrefix_head?, hb] at htake
    split at htake <;> simp at htake

variable {N : ℕ} {env envR : Env} {s s₁ s₃ : ICS20TransferStorage} {msg : SendTransferMsg}
  {outs₁ outs₂ : List Output} {call : Call}

/-- **What the refund of a transfer out sends.** A voucher the transfer burnt is minted back into
the escrow, and the escrow sends the amount of the transferred token back to the sender, whatever
calls came in between; then the sender is called back. -/
theorem refund_outputs (hparse : ∀ a, X.tryParseAddress (X.toHexString a) = some a)
    (hhex : ∀ a, (X.toHexString a).head? = some 0x30) (hk : Function.Injective H.keccak256)
    (hinv : DenomMapsInv X N s) (hcreate : X.create s.deployed ≠ 0)
    (hsend : sendTransfer X H env s msg = .ok (s₁, outs₁))
    (hdecode : X.decodePacketData (sentPacketData X s msg env.sender).encode =
      some (sentPacketData X s msg env.sender))
    (calls : List (Env × Call))
    (hnative : s.ibcERC20Denoms msg.denom = [] →
      (exec (step X H) (s₁, []) calls).1.ibcERC20Contracts (X.toHexString msg.denom) = 0)
    (hcall : call.Refunds msg.sourceClient
      ⟨defaultPortId, defaultPortId, ics20Version, ics20Encoding, (sentPacketData X s msg env.sender).encode⟩)
    (hrefund : step X H (exec (step X H) (s₁, []) calls).1 (envR, call) = .ok (s₃, outs₂)) :
    ∃ callback, outs₂ = (if returningToSource H s msg then
          [.mint msg.denom (s₁.escrows msg.sourceClient) msg.amount] else []) ++
        [.escrowSend (s₁.escrows msg.sourceClient) msg.denom env.sender msg.amount, callback] ∧
      (callback = .timeoutPacketCallback env.sender ∨ callback = .ackPacketCallback env.sender false) := by
  obtain ⟨-, hs₁, -⟩ := sendTransferFrom_eq_ok (sendTransfer_eq_ok hsend)
  -- the transfer leaves the denom maps as they were, and an escrow for the client
  have hcontracts : s₁.ibcERC20Contracts = s.ibcERC20Contracts := by
    rw [hs₁]
    exact (getOrCreateEscrow_maps msg.sourceClient).1
  have hescrow : s₁.escrows msg.sourceClient ≠ 0 := by
    rw [hs₁, getOrCreateEscrow_escrows]
    by_cases h : s.escrows msg.sourceClient = 0
    · rw [getOrCreateEscrow_of_eq h]
      exact hcreate
    · rw [getOrCreateEscrow_of_ne h]
      exact h
  -- the calls in between keep both the escrow and the registered contracts
  have hset := run_settled (X := X) (H := H) calls s₁ []
  obtain ⟨-, packetData, refundee, refunded, callback, hdec, hrt, rfl, hcb⟩ := step_refund_eq_ok hcall hrefund
  rw [hdecode, Option.some.injEq] at hdec
  subst hdec
  dsimp only at hrt
  obtain ⟨-, hsender, erc20, hout, hfound, hnotfound⟩ := refundTokens_eq_ok hrt
  rw [hset.escrows _ hescrow] at hout
  have hu : refundee = env.sender := by
    simp only [sentPacketData_sender, hparse, Option.some.injEq] at hsender
    exact hsender.symm
  subst hu
  refine ⟨callback, ?_, hcb⟩
  by_cases hnat : s.ibcERC20Denoms msg.denom = []
  · -- a native token: its hex string, under which nothing is registered, parses back to it
    have hpd : (sentPacketData X s msg env.sender).denom = X.toHexString msg.denom := by
      simp [sentPacketData, hnat]
    rw [hpd] at hout hnotfound
    obtain ⟨-, hp⟩ := hnotfound (hnative hnat)
    rw [hparse, Option.some.injEq] at hp
    subst hp
    rw [hout, hasPrefix_hex_eq_false hk (hhex _)]
    simp [returningToSource, hnat]
  · -- a voucher: registered under its path, which the calls in between keep
    have hpd : (sentPacketData X s msg env.sender).denom = s.ibcERC20Denoms msg.denom := by
      simp [sentPacketData, hnat]
    obtain ⟨hc, ht⟩ := (hinv.inverse _ _).mpr ⟨rfl, hnat⟩
    rw [← hcontracts] at hc
    have hc₂ : (exec (step X H) (s₁, []) calls).1.ibcERC20Contracts (s.ibcERC20Denoms msg.denom) = msg.denom := by
      rw [hset.contracts _ (by rw [hc]; exact ht), hc]
    rw [hpd, hc₂] at hfound
    rw [hpd] at hout
    rw [hout, hfound ht]
    simp [returningToSource, hnat]

/-- **The refund of a transfer out restores the token.** After a transfer out of a token and the
timeout or the failed acknowledgement of its packet, with any calls of the contract in between,
the token's balances and supply are again what they were before the transfer, and the refund minted
back exactly when the transfer burnt. The hex strings of addresses start with `0` and parse back,
the packet's data decodes to itself, the denom maps are inverse, and no token is registered under
the hex string of a native token by the time of the refund. Other calls may change the token's
ledgers between the two transactions; this token's they leave as it was. -/
theorem refund_restores (hparse : ∀ a, X.tryParseAddress (X.toHexString a) = some a)
    (hhex : ∀ a, (X.toHexString a).head? = some 0x30) (hk : Function.Injective H.keccak256)
    (hinv : DenomMapsInv X N s) (hcreate : X.create s.deployed ≠ 0)
    (hsend : sendTransfer X H env s msg = .ok (s₁, outs₁))
    (hdecode : X.decodePacketData (sentPacketData X s msg env.sender).encode =
      some (sentPacketData X s msg env.sender))
    (calls : List (Env × Call))
    (hnative : s.ibcERC20Denoms msg.denom = [] →
      (exec (step X H) (s₁, []) calls).1.ibcERC20Contracts (X.toHexString msg.denom) = 0)
    (hcall : call.Refunds msg.sourceClient
      ⟨defaultPortId, defaultPortId, ics20Version, ics20Encoding, (sentPacketData X s msg env.sender).encode⟩)
    (hrefund : step X H (exec (step X H) (s₁, []) calls).1 (envR, call) = .ok (s₃, outs₂))
    {L L₁ L₂ L₃ : Address → Token Address} (hL₁ : applyOutputs L outs₁ = some L₁)
    (hL₂ : L₂ msg.denom = L₁ msg.denom) (hL₃ : applyOutputs L₂ outs₂ = some L₃) :
    L₃ msg.denom = L msg.denom ∧
      ((∃ holder, Output.burn msg.denom holder msg.amount ∈ outs₁) ↔
        ∃ holder, Output.mint msg.denom holder msg.amount ∈ outs₂) := by
  obtain ⟨callback, hout₂, hcallback⟩ :=
    refund_outputs hparse hhex hk hinv hcreate hsend hdecode calls hnative hcall hrefund
  obtain ⟨-, -, hout₁⟩ := sendTransferFrom_eq_ok (sendTransfer_eq_ok hsend)
  rw [if_neg Bool.false_ne_true] at hout₁
  subst hout₁ hout₂
  have hquiet : ∀ L, applyOutput L callback = some L := by
    rcases hcallback with rfl | rfl <;> exact fun _ => rfl
  refine ⟨applyOutputs_round_trip (fun _ => rfl) (fun _ => rfl) hquiet hL₁ hL₂ hL₃, ?_⟩
  -- both are the branch that sends a voucher home
  rcases hcallback with rfl | rfl <;> cases returningToSource H s msg <;> simp

end Refund

/-! ## Samples -/

/-- Addresses written as `0x` and their twenty bytes, and read back; packet data decoded to the
transfer of 10 of the token `7` from `5` to `b`; contracts deployed at `1`, `2`, …. -/
def hexExternals : Externals where
  toHexString a := [0x30, 0x78] ++ Bytes.be 20 a.toNat
  tryParseAddress b :=
    if b.take 2 = [0x30, 0x78] ∧ b.length = 22 then some (BitVec.ofNat 160 (Bytes.beNat (b.drop 2))) else none
  decodePacketData _ := some ⟨[0x30, 0x78] ++ Bytes.be 20 7, [0x30, 0x78] ++ Bytes.be 20 5, [0x62], 10, []⟩
  create n := BitVec.ofNat 160 (n + 1)

theorem hexExternals_parse (a : Address) :
    hexExternals.tryParseAddress (hexExternals.toHexString a) = some a := by
  have hlt : a.toNat < 256 ^ 20 := by
    have := a.isLt
    norm_num at this ⊢
    exact this
  have hwell : ([0x30, 0x78] ++ Bytes.be 20 a.toNat).take 2 = [0x30, 0x78] ∧
      ([0x30, 0x78] ++ Bytes.be 20 a.toNat).length = 22 := by
    simp
  unfold hexExternals
  dsimp only
  rw [if_pos hwell, List.cons_append, List.cons_append, List.nil_append, List.drop_succ_cons,
    List.drop_succ_cons, List.drop_zero, Bytes.beNat_be, Nat.mod_eq_of_lt hlt]
  simp

theorem hexExternals_head (a : Address) : (hexExternals.toHexString a).head? = some 0x30 := rfl

/-- The transfer of 10 of the token `7` from `5` to `b` over the client `c`. -/
def transferMsg : SendTransferMsg := ⟨7, 10, [0x62], [0x63], defaultPortId, 100, []⟩

/-- Its timeout, as the router delivers it. -/
def transferTimeout : OnRecvPacketCallback :=
  ⟨[0x63], [0x64], 1, ⟨defaultPortId, defaultPortId, ics20Version, ics20Encoding,
    (sentPacketData hexExternals (ICS20TransferStorage.init 100) transferMsg 5).encode⟩, 0⟩

/-- `5` holds 10 of the token `7`, and the escrow `1` holds 10 of the token `9`. -/
def sampleLedger : Address → Token Address :=
  Function.update (Function.update (fun _ => Token.empty) 7 (Token.empty.mint 5 10)) 9 (Token.empty.mint 1 10)

/-- A transfer of 10 `uatom` from `a` to the holder `5`. -/
def voucherIn : FungibleTokenPacketData := ⟨[0x75, 0x61, 0x74, 0x6f, 0x6d], [0x61], hexExternals.toHexString 5, 10, []⟩

/-- The voucher of `transfer/c/uatom` sent home by `5` to `b`. -/
def voucherOut : FungibleTokenPacketData :=
  ⟨getDenomPrefix defaultPortId [0x63] ++ voucherIn.denom, hexExternals.toHexString 5, [0x62], 10, []⟩

/-- Addresses as `hexExternals` writes and reads them, and `abi.decode` of the two packets of the
voucher's round: the one bringing `uatom` in and the one sending its voucher home. -/
def voucherExternals : Externals :=
  { hexExternals with
    decodePacketData := fun v =>
      if v = voucherIn.encode then some voucherIn else if v = voucherOut.encode then some voucherOut else none }

/-- The receipt over the client `c` of the packet bringing `uatom` in from `a`. -/
def voucherRecv : OnRecvPacketCallback :=
  ⟨[0x61], [0x63], 1, ⟨defaultPortId, defaultPortId, ics20Version, ics20Encoding, voucherIn.encode⟩, 0⟩

/-- The transfer home of the 10 vouchers, deployed at `2`, over the client `c`. -/
def voucherMsg : SendTransferMsg := ⟨2, 10, [0x62], [0x63], defaultPortId, 100, []⟩

/-- A call in between: `5` sends 4 of the native token `7` out over `c`. -/
def voucherMid : List (Env × Call) :=
  [(⟨5, false, fun _ => true⟩, .sendTransfer ⟨7, 4, [0x62], [0x63], defaultPortId, 100, []⟩)]

/-- The timeout of the voucher's packet, as the router delivers it. -/
def voucherTimeout : OnRecvPacketCallback :=
  ⟨[0x63], [0x64], 1, ⟨defaultPortId, defaultPortId, ics20Version, ics20Encoding, voucherOut.encode⟩, 0⟩

/-- `5` holds 10 of the token `7`, and nothing of anything else. -/
def voucherLedger : Address → Token Address :=
  Function.update (fun _ => Token.empty) 7 (Token.empty.mint 5 10)

set_option maxRecDepth 20000 in
theorem refund_restores_sample : ∃ s log s₁ outs₁ s₃ outs₂ L L₁ L₂ L₃,
    exec (step voucherExternals sampleHashes) (ICS20TransferStorage.init 100, [])
      [(routerEnv, .onRecvPacket voucherRecv)] = (s, log) ∧
    applyOutputs voucherLedger log = some L ∧ (L 2).balanceOf 5 = 10 ∧
    sendTransfer voucherExternals sampleHashes ⟨5, false, fun _ => true⟩ s voucherMsg = .ok (s₁, outs₁) ∧
    Output.burn 2 1 10 ∈ outs₁ ∧
    step voucherExternals sampleHashes (exec (step voucherExternals sampleHashes) (s₁, []) voucherMid).1
      (routerEnv, .onTimeoutPacket voucherTimeout) = .ok (s₃, outs₂) ∧
    applyOutputs L outs₁ = some L₁ ∧
    applyOutputs L₁ (exec (step voucherExternals sampleHashes) (s₁, []) voucherMid).2 = some L₂ ∧
    applyOutputs L₂ outs₂ = some L₃ ∧ (L₂ 7).balanceOf 5 = 6 ∧
    L₃ 2 = L 2 ∧ ((∃ holder, Output.burn 2 holder 10 ∈ outs₁) ↔ ∃ holder, Output.mint 2 holder 10 ∈ outs₂) := by
  -- run the receipt, the transfer home, the call in between and the timeout once, and keep their
  -- results abstract; the call in between moves the token `7` only
  obtain ⟨s, log, s₁, outs₁, s₃, outs₂, L, L₁, L₂, L₃, hrun, hL, hbal, hsend, hburn, hrefund, hL₁, hL₂, hL₃,
      hbal₂, hkept⟩ : ∃ s log s₁ outs₁ s₃ outs₂ L L₁ L₂ L₃,
      exec (step voucherExternals sampleHashes) (ICS20TransferStorage.init 100, [])
        [(routerEnv, .onRecvPacket voucherRecv)] = (s, log) ∧
      applyOutputs voucherLedger log = some L ∧ (L 2).balanceOf 5 = 10 ∧
      sendTransfer voucherExternals sampleHashes ⟨5, false, fun _ => true⟩ s voucherMsg = .ok (s₁, outs₁) ∧
      Output.burn 2 1 10 ∈ outs₁ ∧
      step voucherExternals sampleHashes (exec (step voucherExternals sampleHashes) (s₁, []) voucherMid).1
        (routerEnv, .onTimeoutPacket voucherTimeout) = .ok (s₃, outs₂) ∧
      applyOutputs L outs₁ = some L₁ ∧
      applyOutputs L₁ (exec (step voucherExternals sampleHashes) (s₁, []) voucherMid).2 = some L₂ ∧
      applyOutputs L₂ outs₂ = some L₃ ∧ (L₂ 7).balanceOf 5 = 6 ∧ L₂ 2 = L₁ 2 :=
    ⟨_, _, _, _, _, _, _, _, _, _, rfl, rfl, by decide +kernel, rfl, by decide +kernel, rfl, rfl, rfl, rfl,
      by decide +kernel, rfl⟩
  have hs : (exec (step voucherExternals sampleHashes) (ICS20TransferStorage.init 100, [])
      [(routerEnv, .onRecvPacket voucherRecv)]).1 = s := (Prod.mk.inj hrun).1
  -- the receipt deployed the escrow and the voucher, and the maps are inverse
  have hinv : DenomMapsInv voucherExternals 2 s := by
    refine reachable_denomMapsInv (H := sampleHashes) (ofNat_succ_injOn (by decide)) (by decide) ?_ hrun ?_
    · intro c hc
      rw [List.mem_singleton.mp hc]
      trivial
    · rw [← hs]
      decide +kernel
  have hsent : sentPacketData voucherExternals s voucherMsg 5 = voucherOut := by
    rw [← hs]
    decide +kernel
  have hdenom : s.ibcERC20Denoms voucherMsg.denom ≠ [] := by
    rw [← hs]
    decide +kernel
  refine ⟨s, log, s₁, outs₁, s₃, outs₂, L, L₁, L₂, L₃, hrun, hL, hbal, hsend, hburn, hrefund, hL₁, hL₂, hL₃,
    hbal₂, ?_⟩
  -- the voucher's externals read and write addresses as `hexExternals` does
  have htoHex : voucherExternals.toHexString = hexExternals.toHexString := rfl
  have htryParse : voucherExternals.tryParseAddress = hexExternals.tryParseAddress := rfl
  have hparse : ∀ a, voucherExternals.tryParseAddress (voucherExternals.toHexString a) = some a := by
    rw [htoHex, htryParse]
    exact hexExternals_parse
  have hhex : ∀ a, (voucherExternals.toHexString a).head? = some 0x30 := by
    rw [htoHex]
    exact hexExternals_head
  have hdecode : voucherExternals.decodePacketData (sentPacketData voucherExternals s voucherMsg 5).encode =
      some (sentPacketData voucherExternals s voucherMsg 5) := by
    rw [hsent]
    decide +kernel
  have hcall : (Call.onTimeoutPacket voucherTimeout).Refunds voucherMsg.sourceClient
      ⟨defaultPortId, defaultPortId, ics20Version, ics20Encoding, (sentPacketData voucherExternals s voucherMsg 5).encode⟩ :=
    ⟨rfl, by rw [hsent]; rfl⟩
  have hdeployed : voucherExternals.create s.deployed ≠ 0 := by
    rw [← hs]
    decide +kernel
  exact refund_restores hparse hhex (fun _ _ h => h) hinv hdeployed hsend hdecode voucherMid
    (fun h => absurd h hdenom) hcall hrefund hL₁ hkept hL₃

/-- **A custom token registered under the hex string of a native token takes its refunds.**
`setCustomERC20` takes any denom: once the token `9` is registered under the hex string of the
token `7`, with the denom maps still inverse, the refund of a transfer out of `7` sends `9` from the
escrow, and the sender of `7` never gets it back. -/
theorem custom_hex_denom_diverts_refund : ∃ s s₁ outs₁ s₃ outs₂ L₁ L₃,
    exec (step hexExternals sampleHashes) (ICS20TransferStorage.init 100, [])
      [(⟨0, true, fun _ => true⟩, .setCustomERC20 (hexExternals.toHexString 7) 9)] = (s, []) ∧
    DenomMapsInv hexExternals 1 s ∧
    sendTransfer hexExternals sampleHashes ⟨5, false, fun _ => true⟩ s transferMsg = .ok (s₁, outs₁) ∧
    step hexExternals sampleHashes s₁ (⟨100, false, fun _ => true⟩, .onTimeoutPacket transferTimeout) =
      .ok (s₃, outs₂) ∧
    applyOutputs sampleLedger outs₁ = some L₁ ∧ applyOutputs L₁ outs₂ = some L₃ ∧
    (sampleLedger 7).balanceOf 5 = 10 ∧ (L₃ 7).balanceOf 5 = 0 ∧ (L₃ 9).balanceOf 5 = 10 := by
  obtain ⟨s, s₁, outs₁, s₃, outs₂, L₁, L₃, hrun, hrest⟩ : ∃ s s₁ outs₁ s₃ outs₂ L₁ L₃,
      exec (step hexExternals sampleHashes) (ICS20TransferStorage.init 100, [])
        [(⟨0, true, fun _ => true⟩, .setCustomERC20 (hexExternals.toHexString 7) 9)] = (s, []) ∧
      sendTransfer hexExternals sampleHashes ⟨5, false, fun _ => true⟩ s transferMsg = .ok (s₁, outs₁) ∧
      step hexExternals sampleHashes s₁ (⟨100, false, fun _ => true⟩, .onTimeoutPacket transferTimeout) =
        .ok (s₃, outs₂) ∧
      applyOutputs sampleLedger outs₁ = some L₁ ∧ applyOutputs L₁ outs₂ = some L₃ ∧
      (sampleLedger 7).balanceOf 5 = 10 ∧ (L₃ 7).balanceOf 5 = 0 ∧ (L₃ 9).balanceOf 5 = 10 :=
    ⟨_, _, _, _, _, _, _, rfl, rfl, rfl, rfl, rfl, rfl, rfl, rfl⟩
  -- the registration is a sane one: the maps stay inverse
  have hinv : DenomMapsInv hexExternals 1 s := by
    refine reachable_denomMapsInv (H := sampleHashes) ?_ ?_ ?_ hrun ?_
    · intro x hx y hy _
      simp only [Set.mem_Iio, Nat.lt_one_iff] at hx hy
      rw [hx, hy]
    · intro k hk
      rw [Nat.lt_one_iff.mp hk]
      decide
    · simp only [List.mem_singleton, forall_eq]
      exact ⟨by simp [hexExternals], by decide, fun k hk => by rw [Nat.lt_one_iff.mp hk]; decide⟩
    · rw [Prod.mk.inj hrun |>.1.symm]
      decide
  exact ⟨s, s₁, outs₁, s₃, outs₂, L₁, L₃, hrun, hinv, hrest⟩

end ICS20Transfer
