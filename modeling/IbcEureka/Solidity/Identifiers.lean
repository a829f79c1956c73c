/-
# The router's identifier namespaces

Four entry points of the Solidity router name things. The permissionless
`addClient` hands out `client-0`, `client-1`, … and the restricted one takes a
custom client id; the permissionless `addIBCApp(app)` registers `app` under
`Strings.toHexString(app)` and the restricted one under a custom port id. The
namespaces are kept apart by three checks in three places: a custom id must
not start with `client-` (`validateCustomIBCIdentifier`), decimal rendering is
injective, and a custom port must not parse as an address while every
`toHexString(app)` does.

OpenZeppelin's `Strings` is not part of the repository. `Strings.toString`
and `Strings.toHexString` model its two loops, and `OzStrings.Standard` says
that the router's `OzStrings` is these, with `tryParseAddress` accepting
exactly 40 hex digits with an optional `0x`.

Every transaction of the router acts on the registry as a run of registry
calls (`step_registry`), so the registry's invariant `RegistryInv` holds on
every reachable state; with the invariant `AppsInv` of the port table, it
gives the namespaces theorem.

Key definitions: `Strings.toString`, `Strings.toHexString`, `OzStrings.Standard`,
`ICS02Client.RegistryInv`, `ICS26Router.AppsInv`.
Key theorems: `Strings.toString_injective`, `Strings.toHexString_injective`,
`IBCIdentifiers.not_prefix_of_validate`, `ICS02Client.registryInv_run`,
`ICS26Router.step_registry`.
-/
import IbcEureka.Solidity.RouterLifecycle

namespace Strings

/-- `Strings.toString(uint256)`: the loop writes the digit `value % 10` and divides by ten
until nothing is left, so the digits come most significant first and `0` is `"0"`. -/
def toString (value : ℕ) : Bytes :=
  (if h : value < 10 then [] else
    have : value / 10 < value := by omega
    toString (value / 10)) ++ [UInt8.ofNat (0x30 + value % 10)]

/-- `HEX_DIGITS`, `"0123456789abcdef"`, at a nibble. -/
def hexDigit (d : ℕ) : UInt8 :=
  if d < 10 then UInt8.ofNat (0x30 + d) else UInt8.ofNat (0x61 + (d - 10))

/-- The `length` lowest nibbles of `value`, most significant first: the loop of
`toHexString(uint256, uint256)` writes `value & 0xf` and shifts right by four. -/
def hexNibbles : ℕ → ℕ → Bytes
  | 0, _ => []
  | length + 1, value => hexNibbles length (value / 16) ++ [hexDigit (value % 16)]

/-- `Strings.toHexString(address)`: `"0x"` and the 40 nibbles of the address. -/
def toHexString (addr : Address) : Bytes := [0x30, 0x78] ++ hexNibbles 40 addr.toNat

/-- A hex digit, in either case. -/
def isHexChar (b : UInt8) : Bool :=
  (0x30 ≤ b && b ≤ 0x39) || (0x61 ≤ b && b ≤ 0x66) || (0x41 ≤ b && b ≤ 0x46)

/-- The strings `tryParseAddress` is taken to accept: 40 hex digits, with or without `0x`. -/
def isHexAddress (b : Bytes) : Bool :=
  (b.length == 40 && b.all isHexChar) || (b.take 2 == [0x30, 0x78] && b.length == 42 && (b.drop 2).all isHexChar)

theorem toString_eq (value : ℕ) :
    toString value = (if value < 10 then [] else toString (value / 10)) ++ [UInt8.ofNat (0x30 + value % 10)] := by
  rw [toString]
  split_ifs <;> rfl

theorem toString_ne_nil (value : ℕ) : toString value ≠ [] := by
  rw [toString_eq]
  simp

/-- Decimal rendering is injective: the last digits agree, and so do the strings before them. -/
theorem toString_injective : Function.Injective toString := by
  intro a
  induction a using Nat.strong_induction_on with
  | _ a ih =>
    intro b h
    rw [toString_eq a, toString_eq b] at h
    obtain ⟨hinit, hlast⟩ := List.append_inj' h rfl
    have hdigit : a % 10 = b % 10 := by
      have := Bytes.ofNat_inj (by omega) (by omega) (List.singleton_inj.mp hlast)
      omega
    by_cases ha : a < 10 <;> by_cases hb : b < 10 <;> simp only [ha, hb, if_true, if_false] at hinit
    · omega
    · exact absurd hinit.symm (toString_ne_nil _)
    · exact absurd hinit (toString_ne_nil _)
    · -- both have more digits: the leading ones render `a / 10` and `b / 10`
      have hdiv : a / 10 = b / 10 := ih (a / 10) (by omega) hinit
      omega

theorem hexDigit_toNat {d : ℕ} (hd : d < 16) : (hexDigit d).toNat = if d < 10 then 48 + d else 87 + d := by
  unfold hexDigit
  split_ifs <;> simp only [UInt8.toNat_ofNat'] <;> omega

theorem hexDigit_inj {d e : ℕ} (hd : d < 16) (he : e < 16) (h : hexDigit d = hexDigit e) : d = e := by
  have h' := congrArg UInt8.toNat h
  rw [hexDigit_toNat hd, hexDigit_toNat he] at h'
  split_ifs at h' <;> omega

theorem isHexChar_hexDigit : ∀ d < 16, isHexChar (hexDigit d) = true := by decide

@[simp] theorem hexNibbles_length : ∀ length value, (hexNibbles length value).length = length
  | 0, _ => rfl
  | length + 1, value => by simp [hexNibbles, hexNibbles_length length]

theorem hexNibbles_all_isHexChar : ∀ length value, (hexNibbles length value).all isHexChar = true
  | 0, _ => rfl
  | length + 1, value => by
    simp only [hexNibbles, List.all_append, hexNibbles_all_isHexChar length, List.all_cons, List.all_nil,
      isHexChar_hexDigit _ (Nat.mod_lt _ (by decide)), Bool.and_self]

/-- The nibbles of a value that fits in them determine it. -/
theorem hexNibbles_inj : ∀ {length v w : ℕ}, v < 16 ^ length → w < 16 ^ length →
    hexNibbles length v = hexNibbles length w → v = w
  | 0, v, w, hv, hw, _ => by simp at hv hw; omega
  | length + 1, v, w, hv, hw, h => by
    rw [hexNibbles, hexNibbles] at h
    obtain ⟨hinit, hlast⟩ := List.append_inj' h rfl
    have hnibble : v % 16 = w % 16 :=
      hexDigit_inj (Nat.mod_lt _ (by decide)) (Nat.mod_lt _ (by decide)) (List.singleton_inj.mp hlast)
    have hbound : ∀ u, u < 16 ^ (length + 1) → u / 16 < 16 ^ length := fun u hu => by
      rw [pow_succ] at hu
      omega
    have hdiv : v / 16 = w / 16 := hexNibbles_inj (hbound v hv) (hbound w hw) hinit
    omega

theorem toHexString_injective : Function.Injective toHexString := by
  intro a b h
  have hnibbles := List.append_cancel_left h
  have hlt : ∀ c : Address, c.toNat < 16 ^ 40 := fun c => by
    have := c.isLt
    norm_num at this ⊢
    omega
  exact BitVec.eq_of_toNat_eq (hexNibbles_inj (hlt a) (hlt b) hnibbles)

/-- Every `toHexString(address)` parses as an address. -/
theorem isHexAddress_toHexString (addr : Address) : isHexAddress (toHexString addr) = true := by
  simp [isHexAddress, toHexString, hexNibbles_all_isHexChar]

end Strings

/-- The router's `OzStrings` is OpenZeppelin's: decimal and hex rendering by its loops, and
`tryParseAddress` accepting exactly 40 hex digits with an optional `0x`. -/
structure OzStrings.Standard (S : OzStrings) : Prop where
  toString_eq : S.toString = Strings.toString
  toHexString_eq : S.toHexString = Strings.toHexString
  tryParseAddress_eq : S.tryParseAddress = Strings.isHexAddress

namespace IBCIdentifiers

/-- A string that starts with the prefix is seen to, whatever Keccak-256 is: the first bytes
are the prefix itself. -/
theorem hasPrefix_of_prefix (H : Hashes) {bz pfx : Bytes} (h : pfx <+: bz) : hasPrefix H bz pfx = true := by
  obtain ⟨t, rfl⟩ := h
  simp [hasPrefix]

/-- A valid custom identifier never starts with `client-`. -/
theorem not_prefix_of_validate {H : Hashes} {customId : Bytes} (hv : validateCustomIBCIdentifier H customId = true) :
    ¬ clientIdPrefix <+: customId := by
  intro hpfx
  have hclient := hasPrefix_of_prefix H hpfx
  simp [validateCustomIBCIdentifier, hclient] at hv

end IBCIdentifiers

namespace ICS02Client

open IBCIdentifiers Txn

/-- The ids the permissionless `addClient` handed out, read off the registry's log: the
added ids that start with `client-`. -/
def generatedIds (log : List ICS02Event) : List Bytes :=
  log.filterMap fun
    | .ICS02ClientAdded clientId _ _ => if clientIdPrefix.isPrefixOf clientId then some clientId else none
    | .ICS02ClientMigrated .. => none

@[simp] theorem generatedIds_append (log log' : List ICS02Event) :
    generatedIds (log ++ log') = generatedIds log ++ generatedIds log' := by
  simp [generatedIds, List.filterMap_append]

/-- Every client under an id that starts with `client-` is under a generated id below `seq`. -/
def Generated (S : OzStrings) (clients : Bytes → Address) (seq : ℕ) : Prop :=
  ∀ clientId, clients clientId ≠ 0 → clientIdPrefix <+: clientId →
    ∃ k < seq, clientId = clientIdPrefix ++ S.toString k

/-- The invariant of the registry: the generated ids are all below the counter, and the log
has handed them out in order. -/
structure RegistryInv (S : OzStrings) (st : ICS02ClientStorage) (log : List ICS02Event) : Prop where
  generated : Generated S st.clients st.nextClientSeq
  logged : generatedIds log = (List.range st.nextClientSeq).map fun k => clientIdPrefix ++ S.toString k

theorem registryInv_init (S : OzStrings) : RegistryInv S .init [] := ⟨fun _ h => absurd rfl h, rfl⟩

variable {S : OzStrings} {H : Hashes} {st st' : ICS02ClientStorage} {log evs : List ICS02Event}

/-- Putting a client under one id keeps `Generated` when that id, if it starts with
`client-`, is a generated one below the new counter. -/
theorem Generated.update {clients : Bytes → Address} {seq seq' : ℕ} (hgen : Generated S clients seq)
    (hle : seq ≤ seq') {clientId : Bytes} {client : Address}
    (hnew : clientIdPrefix <+: clientId → ∃ k < seq', clientId = clientIdPrefix ++ S.toString k) :
    Generated S (Function.update clients clientId client) seq' := by
  intro id hne hpfx
  by_cases hid : id = clientId
  · subst hid
    exact hnew hpfx
  · rw [Function.update_of_ne hid] at hne
    obtain ⟨k, hk, rfl⟩ := hgen id hne hpfx
    exact ⟨k, by omega, rfl⟩

theorem Generated.free (hinj : Function.Injective S.toString) {clients : Bytes → Address} {seq : ℕ}
    (hgen : Generated S clients seq) {k : ℕ} (hk : seq ≤ k) : clients (clientIdPrefix ++ S.toString k) = 0 := by
  by_contra hne
  obtain ⟨j, hj, heq⟩ := hgen _ hne (List.prefix_append _ _)
  have hjk : k = j := hinj (List.append_cancel_left heq)
  omega

theorem addClientAt_ok {clientId : Bytes} {counterpartyInfo : CounterpartyInfo} {client : Address}
    (h : addClientAt st clientId counterpartyInfo client = .ok (st', evs)) :
    st.clients clientId = 0 ∧ st'.clients = Function.update st.clients clientId client ∧
      st'.nextClientSeq = st.nextClientSeq ∧ evs = [.ICS02ClientAdded clientId counterpartyInfo client] := by
  unfold addClientAt at h
  split_ifs at h with hfree
  simp only [Except.ok.injEq, Prod.mk.injEq] at h
  obtain ⟨rfl, rfl⟩ := h
  exact ⟨hfree, rfl, rfl, rfl⟩

theorem getClient_ok {clientId : Bytes} {client : Address} (h : getClient st clientId = .ok client) :
    st.clients clientId ≠ 0 := by
  simp only [getClient] at h
  split_ifs at h with hne
  exact hne

/-- **One registry call keeps the invariant.** -/
theorem registryInv_clientCall (hinv : RegistryInv S st log)
    {c : ClientCall} (h : clientCall S H st c = .ok (st', evs)) : RegistryInv S st' (log ++ evs) := by
  cases c with
  | addClient counterpartyInfo client =>
    simp only [clientCall] at h
    split_ifs at h with hlt
    obtain ⟨-, hclients, hseq, rfl⟩ := addClientAt_ok h
    -- the new client goes under `client-<seq>` and the counter moves past it
    refine ⟨hclients ▸ hseq ▸ hinv.generated.update (Nat.le_succ _) fun _ => ⟨_, Nat.lt_succ_self _, rfl⟩, ?_⟩
    rw [generatedIds_append, hinv.logged, hseq, List.range_succ, List.map_append]
    simp [generatedIds, List.isPrefixOf_iff_prefix]
  | addClientWithId authorized clientId counterpartyInfo client =>
    simp only [clientCall] at h
    split_ifs at h with hauth hlen hvalid
    obtain ⟨-, hclients, hseq, rfl⟩ := addClientAt_ok h
    -- a custom id never starts with `client-`
    have hnot : ¬ clientIdPrefix <+: clientId := not_prefix_of_validate (by simpa using hvalid)
    refine ⟨hclients ▸ hseq ▸ hinv.generated.update le_rfl fun hpfx => absurd hpfx hnot, ?_⟩
    rw [generatedIds_append, hinv.logged, hseq]
    simp [generatedIds, List.isPrefixOf_iff_prefix, hnot]
  | migrateClient authorized clientId counterpartyInfo client =>
    simp only [clientCall] at h
    split_ifs at h with hauth
    cases hget : getClient st clientId with
    | error e => simp [hget] at h
    | ok old =>
      simp only [hget, Except.ok.injEq, Prod.mk.injEq] at h
      obtain ⟨rfl, rfl⟩ := h
      -- the migrated id already had a client, so it was generated if it looks generated
      refine ⟨hinv.generated.update le_rfl fun hpfx => hinv.generated clientId (getClient_ok hget) hpfx, ?_⟩
      rw [generatedIds_append, hinv.logged]
      simp [generatedIds]

/-- **The invariant holds along every run of registry calls.** -/
theorem registryInv_run (cs : List ClientCall)
    (p : ICS02ClientStorage × List ICS02Event) (hinv : RegistryInv S p.1 p.2) :
    RegistryInv S (exec (clientCall S H) p cs).1 (exec (clientCall S H) p cs).2 :=
  exec_induction (clientCall S H) (RegistryInv S) (fun _ _ _ _ _ hinv h => registryInv_clientCall hinv h)
    cs p hinv

theorem clientCall_addClient (counterpartyInfo : CounterpartyInfo) (client : Address) :
    clientCall S H st (.addClient counterpartyInfo client) =
      if st.nextClientSeq + 1 < 2 ^ 256 then
        addClientAt { st with nextClientSeq := st.nextClientSeq + 1 }
          (clientIdPrefix ++ S.toString st.nextClientSeq) counterpartyInfo client
      else .error .ArithmeticOverflow := rfl

/-- On a registry with the invariant, the permissionless `addClient` adds the client under
`client-<seq>`, and fails only when the counter overflows. -/
theorem RegistryInv.addClient (hinj : Function.Injective S.toString) (hinv : RegistryInv S st log)
    (counterpartyInfo : CounterpartyInfo) (client : Address) :
    (∃ st', clientCall S H st (.addClient counterpartyInfo client) =
        .ok (st', [.ICS02ClientAdded (clientIdPrefix ++ S.toString st.nextClientSeq) counterpartyInfo client])) ∨
      (2 ^ 256 ≤ st.nextClientSeq + 1 ∧
        clientCall S H st (.addClient counterpartyInfo client) = .error .ArithmeticOverflow) := by
  by_cases hlt : st.nextClientSeq + 1 < 2 ^ 256
  · -- the generated id is free: it is at the counter
    have hfree := hinv.generated.free hinj (le_refl st.nextClientSeq)
    left
    rw [clientCall_addClient, if_pos hlt]
    simp [addClientAt, hfree]
  · exact .inr ⟨by omega, by rw [clientCall_addClient, if_neg hlt]⟩

end ICS02Client

namespace ICS26Router

open ICS02Client IBCIdentifiers Txn

/-- The registry's event an entry of the router's log is, if any. -/
def Event.ics02? : Event → Option ICS02Event
  | .ics02 e => some e
  | _ => none

/-- The registry's part of the router's log. -/
def registryLog (log : List Event) : List ICS02Event := log.filterMap Event.ics02?

@[simp] theorem registryLog_append (log log' : List Event) :
    registryLog (log ++ log') = registryLog log ++ registryLog log' := by
  simp [registryLog, List.filterMap_append]

@[simp] theorem registryLog_map_ics02 (evs : List ICS02Event) : registryLog (evs.map .ics02) = evs := by
  simp [registryLog, List.filterMap_map, Function.comp_def, Event.ics02?]

/-- A transaction that leaves the port table alone and acts on the registry as a run of
registry calls. -/
def RegistryRun (S : OzStrings) (H : Hashes) (s s' : State) (evs : List Event) : Prop :=
  s'.apps = s.apps ∧ ∃ cs, (s'.clients, registryLog evs) = exec (clientCall S H) (s.clients, []) cs

variable {S : OzStrings} {H : Hashes} {s s' : State} {evs : List Event}

theorem RegistryRun.quiet (happs : s'.apps = s.apps) (hclients : s'.clients = s.clients)
    (hlog : registryLog evs = []) : RegistryRun S H s s' evs :=
  ⟨happs, [], by rw [hclients, hlog]; rfl⟩

/-- What the router does around an application's registry calls (the IBC store it writes,
the events it logs before and after) changes nothing of the run. -/
theorem RegistryRun.around {t t' : State} {store store' : IBCStore.IBCStoreStorage} {pre post : List Event}
    (hrun : RegistryRun S H t t' evs) (ht : t = { s with store := store }) (hs' : s' = { t' with store := store' })
    (hpre : registryLog pre = []) (hpost : registryLog post = []) :
    RegistryRun S H s s' (pre ++ evs ++ post) := by
  subst ht hs'
  obtain ⟨happs, cs, hcs⟩ := hrun
  exact ⟨happs, cs, by simpa [hpre, hpost] using hcs⟩

theorem clientStep_clientCall {c : ClientCall} (h : clientStep S H s c = .ok (s', evs)) :
    clientCall S H s.clients c = .ok (s'.clients, registryLog evs) ∧ s'.apps = s.apps := by
  unfold clientStep at h
  cases hc : clientCall S H s.clients c with
  | error e => simp [hc, Except.map] at h
  | ok r =>
    simp only [hc, Except.map, Except.ok.injEq, Prod.mk.injEq] at h
    obtain ⟨rfl, rfl⟩ := h
    simp

theorem clientStep_error {c : ClientCall} {e : Revert} (h : clientStep S H s c = .error e) :
    clientCall S H s.clients c = .error e := by
  unfold clientStep at h
  cases hc : clientCall S H s.clients c with
  | error e' => simpa [hc, Except.map] using h
  | ok r => simp [hc, Except.map] at h

/-- The registry calls of an application are a run of registry calls. -/
theorem nestedCalls_registryRun (s : State) (nested : List ClientCall) :
    RegistryRun S H s (nestedCalls S H s nested).1 (nestedCalls S H s nested).2 := by
  refine ⟨?_, nested, ?_⟩
  · exact exec_induction (clientStep S H) (fun t _ => t.apps = s.apps)
      (fun _ _ _ _ _ happs h => (clientStep_clientCall h).2.trans happs) nested (s, []) rfl
  · -- the router's run, seen on the registry
    exact exec_project (clientStep S H) (clientCall S H) State.clients registryLog registryLog_append
      (fun _ _ _ _ h => (clientStep_clientCall h).1) (fun _ _ e h => ⟨e, clientStep_error h⟩) nested (s, [])

theorem recvCallbackCalls_registryRun (s : State) (callback : Except Bytes Bytes) (nested : List ClientCall) :
    RegistryRun S H s (recvCallbackCalls S H s callback nested).1 (recvCallbackCalls S H s callback nested).2 := by
  cases callback with
  | ok _ => exact nestedCalls_registryRun s nested
  | error _ => exact .quiet rfl rfl rfl

theorem recvAcks_registryLog {callback : Except Bytes Bytes} {ack : Bytes} {ackEvents : List Event}
    (h : recvAcks H callback = .ok (ack, ackEvents)) : registryLog ackEvents = [] := by
  cases callback with
  | ok a =>
    simp only [recvAcks, require_bind_eq_ok, pure_eq_ok, Prod.mk.injEq] at h
    obtain ⟨-, -, -, rfl⟩ := h
    rfl
  | error reason =>
    simp only [recvAcks, require_bind_eq_ok, pure_eq_ok, Prod.mk.injEq] at h
    obtain ⟨-, -, rfl⟩ := h
    rfl

theorem sendPacket_registryRun {env : Env} {msg : MsgSendPacket} (h : sendPacket H s env msg = .ok (s', evs)) :
    RegistryRun S H s s' evs := by
  simp only [sendPacket, bind_eq_ok, require_eq_ok, exists_const, pure_eq_ok, Prod.mk.injEq] at h
  obtain ⟨_, _, _, _, _, _, _, _, -, _, -, rfl, rfl⟩ := h
  exact .quiet rfl rfl rfl

theorem recvPacket_registryRun {env : Env} {msg : MsgRecvPacket} {verify : MsgVerifyMembership → Bool}
    {callback : Except Bytes Bytes} {nested : List ClientCall}
    (h : recvPacket S H s env msg verify callback nested = .ok (s', evs)) : RegistryRun S H s s' evs := by
  simp only [recvPacket, bind_eq_ok, require_eq_ok, exists_const] at h
  obtain ⟨-, _, -, _, -, -, -, _, -, _, -, -, ⟨store, fresh⟩, -, h⟩ := h
  cases fresh with
  | false =>
    -- the receipt is already there: a no-op
    simp only [Bool.not_false, if_true, pure_eq_ok, Prod.mk.injEq] at h
    obtain ⟨rfl, rfl⟩ := h
    exact .quiet rfl rfl rfl
  | true =>
    simp only [Bool.not_true, Bool.false_eq_true, if_false, bind_eq_ok, pure_eq_ok, Prod.mk.injEq] at h
    obtain ⟨app, -, ⟨ack, ackEvents⟩, hacks, store', -, rfl, rfl⟩ := h
    rw [List.append_assoc _ ackEvents]
    exact (recvCallbackCalls_registryRun _ callback nested).around rfl rfl rfl
      (by rw [registryLog_append, recvAcks_registryLog hacks]; rfl)

theorem ackPacket_registryRun {env : Env} {msg : MsgAckPacket} {verify : MsgVerifyMembership → Bool}
    {callbackOk : Bool} {nested : List ClientCall}
    (h : ackPacket S H s env msg verify callbackOk nested = .ok (s', evs)) : RegistryRun S H s s' evs := by
  simp only [ackPacket, bind_eq_ok, require_eq_ok, exists_const] at h
  obtain ⟨-, _, -, _, -, -, _, -, _, -, _, -, -, ⟨store, found⟩, -, h⟩ := h
  cases found with
  | false =>
    simp only [Bool.not_false, if_true, pure_eq_ok, Prod.mk.injEq] at h
    obtain ⟨rfl, rfl⟩ := h
    exact .quiet rfl rfl rfl
  | true =>
    simp only [Bool.not_true, Bool.false_eq_true, if_false, bind_eq_ok, require_eq_ok, exists_const,
      pure_eq_ok, Prod.mk.injEq] at h
    obtain ⟨app, -, -, rfl, rfl⟩ := h
    exact (nestedCalls_registryRun _ nested).around rfl rfl rfl rfl

theorem timeoutPacket_registryRun {env : Env} {msg : MsgTimeoutPacket}
    {verify : MsgVerifyNonMembership → Option ℕ} {callbackOk : Bool} {nested : List ClientCall}
    (h : timeoutPacket S H s env msg verify callbackOk nested = .ok (s', evs)) : RegistryRun S H s s' evs := by
  simp only [timeoutPacket, bind_eq_ok, require_eq_ok, exists_const] at h
  obtain ⟨-, _, -, _, -, -, _, -, _, -, _, -, -, ⟨store, found⟩, -, h⟩ := h
  cases found with
  | false =>
    simp only [Bool.not_false, if_true, pure_eq_ok, Prod.mk.injEq] at h
    obtain ⟨rfl, rfl⟩ := h
    exact .quiet rfl rfl rfl
  | true =>
    simp only [Bool.not_true, Bool.false_eq_true, if_false, bind_eq_ok, require_eq_ok, exists_const,
      pure_eq_ok, Prod.mk.injEq] at h
    obtain ⟨app, -, -, rfl, rfl⟩ := h
    exact (nestedCalls_registryRun _ nested).around rfl rfl rfl rfl

/-- `_addIBCApp` puts the app under a port that was free, and logs it. -/
theorem addIBCAppAt_apps {portId : Bytes} {app : Address} (h : addIBCAppAt s portId app = .ok (s', evs)) :
    s.apps portId = 0 ∧ s' = { s with apps := Function.update s.apps portId app } ∧
      evs = [.IBCAppAdded portId app] := by
  simp only [addIBCAppAt, require_bind_eq_ok, pure_eq_ok, Prod.mk.injEq] at h
  obtain ⟨hfree, rfl, rfl⟩ := h
  exact ⟨hfree, rfl, rfl⟩

theorem addIBCAppAt_error {p : Bytes} {app : Address} {e : Revert} (h : addIBCAppAt s p app = .error e) :
    s.apps p ≠ 0 ∧ e = .IBCPortAlreadyExists p := by
  by_cases hfree : s.apps p = 0
  · simp [addIBCAppAt, require, hfree, bind, Except.bind, pure, Except.pure] at h
  · simp only [addIBCAppAt, require, hfree, if_false, bind, Except.bind] at h
    exact ⟨hfree, (Except.error.inj h).symm⟩

theorem addIBCAppWithPort_apps {env : Env} {portId : Bytes} {app : Address}
    (h : addIBCAppWithPort S H s env portId app = .ok (s', evs)) :
    S.tryParseAddress portId = false ∧ addIBCAppAt s portId app = .ok (s', evs) := by
  simp only [addIBCAppWithPort, require_bind_eq_ok] at h
  obtain ⟨-, -, hparse, -, h⟩ := h
  exact ⟨by simpa using hparse, h⟩

/-- **Every transaction acts on the registry as a run of registry calls.** -/
theorem step_registry {e : Env × Call} (h : step S H s e = .ok (s', evs)) :
    ∃ cs, (s'.clients, registryLog evs) = exec (clientCall S H) (s.clients, []) cs := by
  obtain ⟨env, call⟩ := e
  cases call with
  | addIBCApp app =>
    obtain ⟨-, rfl, rfl⟩ := addIBCAppAt_apps h
    exact ⟨[], rfl⟩
  | addIBCAppWithPort portId app =>
    obtain ⟨-, rfl, rfl⟩ := addIBCAppAt_apps (addIBCAppWithPort_apps h).2
    exact ⟨[], rfl⟩
  | sendPacket msg => exact (sendPacket_registryRun (S := S) h).2
  | recvPacket msg verify callback nested => exact (recvPacket_registryRun h).2
  | ackPacket msg verify callbackOk nested => exact (ackPacket_registryRun h).2
  | timeoutPacket msg verify callbackOk nested => exact (timeoutPacket_registryRun h).2
  | client c =>
    obtain ⟨hcall, -⟩ := clientStep_clientCall h
    exact ⟨[c], by rw [exec_cons, apply_of_ok _ hcall]; rfl⟩

/-- The invariant of the port table: every app was logged when it was added, and a port
that parses as an address is the hex string of its app. -/
structure AppsInv (S : OzStrings) (s : State) (log : List Event) : Prop where
  logged : ∀ portId, s.apps portId ≠ 0 → .IBCAppAdded portId (s.apps portId) ∈ log
  parsed : ∀ portId, s.apps portId ≠ 0 → S.tryParseAddress portId = true → portId = S.toHexString (s.apps portId)

variable {log : List Event}

theorem AppsInv.frame (hinv : AppsInv S s log) (happs : s'.apps = s.apps) : AppsInv S s' (log ++ evs) where
  logged portId hne := List.mem_append_left _ (happs ▸ hinv.logged portId (happs ▸ hne))
  parsed portId hne hparse := happs ▸ hinv.parsed portId (happs ▸ hne) hparse

/-- Adding an app keeps the invariant when its port, if it parses, is the app's hex string. -/
theorem AppsInv.add (hinv : AppsInv S s log) {portId : Bytes} {app : Address}
    (hport : S.tryParseAddress portId = true → portId = S.toHexString app) :
    AppsInv S { s with apps := Function.update s.apps portId app } (log ++ [.IBCAppAdded portId app]) := by
  constructor
  · intro id hne
    by_cases hid : id = portId
    · subst hid
      simp
    · simp only [Function.update_of_ne hid] at hne ⊢
      exact List.mem_append_left _ (hinv.logged id hne)
  · intro id hne hparse
    by_cases hid : id = portId
    · subst hid
      simpa using hport hparse
    · simp only [Function.update_of_ne hid] at hne ⊢
      exact hinv.parsed id hne hparse

/-- **One transaction keeps the invariant of the port table.** -/
theorem appsInv_step (hinv : AppsInv S s log) {e : Env × Call} (h : step S H s e = .ok (s', evs)) :
    AppsInv S s' (log ++ evs) := by
  obtain ⟨env, call⟩ := e
  cases call with
  | addIBCApp app =>
    -- the port is the app's hex string
    obtain ⟨-, rfl, rfl⟩ := addIBCAppAt_apps h
    exact hinv.add fun _ => rfl
  | addIBCAppWithPort portId app =>
    -- a custom port never parses as an address
    obtain ⟨hparse, hadd⟩ := addIBCAppWithPort_apps h
    obtain ⟨-, rfl, rfl⟩ := addIBCAppAt_apps hadd
    exact hinv.add fun h => absurd (hparse.symm.trans h) Bool.false_ne_true
  | sendPacket msg => exact hinv.frame (sendPacket_registryRun (S := S) h).1
  | recvPacket msg verify callback nested => exact hinv.frame (recvPacket_registryRun h).1
  | ackPacket msg verify callbackOk nested => exact hinv.frame (ackPacket_registryRun h).1
  | timeoutPacket msg verify callbackOk nested => exact hinv.frame (timeoutPacket_registryRun h).1
  | client c => exact hinv.frame (clientStep_clientCall h).2

/-! ## Runs -/

/-- The registry of a reachable router has the invariant, for its part of the log. -/
theorem reachable_registryInv (hreach : Reachable S H s log) : RegistryInv S s.clients (registryLog log) := by
  obtain ⟨calls, hrun⟩ := hreach
  have := exec_induction (step S H) (fun s log => RegistryInv S s.clients (registryLog log))
    (fun t log _ t' evs hinv h => by
      obtain ⟨cs, hcs⟩ := step_registry h
      -- the router's step, seen on the registry, continues the registry's run from its log
      have hrun := registryInv_run (H := H) cs (t.clients, registryLog log) hinv
      rw [exec_from_log, ← hcs] at hrun
      simpa using hrun) calls (State.init, []) (registryInv_init S)
  rwa [hrun] at this

theorem reachable_appsInv (hreach : Reachable S H s log) : AppsInv S s log := by
  obtain ⟨calls, hrun⟩ := hreach
  have := exec_induction (step S H) (AppsInv S) (fun _ _ _ _ _ hinv h => appsInv_step hinv h) calls
    (State.init, []) ⟨fun _ h => absurd rfl h, fun _ h => absurd rfl h⟩
  rwa [hrun] at this

/-- **The identifier namespaces of the router never collide.** On every reachable router:
the ids handed out by the permissionless `addClient` are `client-0`, `client-1`, … in order;
the next permissionless `addClient` adds its client under the next of them, and fails only
once the counter overflows; and the permissionless `addIBCApp(app)` fails only with
`IBCPortAlreadyExists`, because `app` itself was added under its hex string before. -/
theorem router_identifier_namespaces (hS : S.Standard) (hreach : Reachable S H s log) :
    generatedIds (registryLog log) = (List.range s.clients.nextClientSeq).map (fun k => clientIdPrefix ++ S.toString k) ∧
    (∀ env counterpartyInfo client,
      (∃ s', step S H s (env, .client (.addClient counterpartyInfo client)) =
          .ok (s', [.ics02 (.ICS02ClientAdded (clientIdPrefix ++ S.toString s.clients.nextClientSeq)
            counterpartyInfo client)])) ∨
        (2 ^ 256 ≤ s.clients.nextClientSeq + 1 ∧
          step S H s (env, .client (.addClient counterpartyInfo client)) = .error .ArithmeticOverflow)) ∧
    (∀ env app e, step S H s (env, .addIBCApp app) = .error e →
      e = .IBCPortAlreadyExists (S.toHexString app) ∧ s.apps (S.toHexString app) = app ∧
        .IBCAppAdded (S.toHexString app) app ∈ log) := by
  have hreg := reachable_registryInv hreach
  have hinj : Function.Injective S.toString := hS.toString_eq ▸ Strings.toString_injective
  refine ⟨hreg.logged, fun env counterpartyInfo client => ?_, fun env app e h => ?_⟩
  · -- the router's `addClient` is the registry's, its event wrapped
    rcases hreg.addClient (H := H) hinj counterpartyInfo client with ⟨st', hok⟩ | ⟨hge, herr⟩
    · exact .inl ⟨{ s with clients := st' }, by simp [step, clientStep, hok, Except.map]⟩
    · exact .inr ⟨hge, by simp [step, clientStep, herr, Except.map]⟩
  · -- the port was taken, and a taken port that parses is the hex string of its app
    have hport := addIBCAppAt_error (p := S.toHexString app) h
    have hparse : S.tryParseAddress (S.toHexString app) = true := by
      rw [hS.tryParseAddress_eq, hS.toHexString_eq]
      exact Strings.isHexAddress_toHexString app
    have hinv := reachable_appsInv hreach
    have happ : app = s.apps (S.toHexString app) := by
      have hhex := hinv.parsed _ hport.1 hparse
      rw [hS.toHexString_eq] at hhex ⊢
      exact Strings.toHexString_injective hhex
    have hlogged := hinv.logged _ hport.1
    rw [← happ] at hlogged
    exact ⟨hport.2, happ.symm, hlogged⟩

/-- OpenZeppelin's `Strings`, as `OzStrings.Standard` describes it. -/
def standardStrings : OzStrings := ⟨Strings.toString, Strings.toHexString, Strings.isHexAddress⟩

/-- Two permissionless clients around a custom one, then the app at address 7 under its hex
string and the app at address 9 under `transfer`. -/
def identifierCalls : List (Env × Call) :=
  [(⟨3, false, 0⟩, .client (.addClient ⟨[0x64], [[0x69]]⟩ 5)),
    (⟨3, true, 0⟩, .client (.addClientWithId true [0x61, 0x62, 0x63, 0x64] ⟨[0x65], [[0x69]]⟩ 6)),
    (⟨3, false, 0⟩, .client (.addClient ⟨[0x66], [[0x69]]⟩ 8)),
    (⟨3, false, 0⟩, .addIBCApp 7),
    (⟨3, true, 0⟩, .addIBCAppWithPort [0x74, 0x72, 0x61, 0x6e, 0x73, 0x66, 0x65, 0x72] 9)]

/-- The state and the log after `identifierCalls`. -/
def identifierRun : State × List Event := exec (step standardStrings consHashes) (State.init, []) identifierCalls

theorem router_identifier_namespaces_sample :
    standardStrings.Standard ∧ Reachable standardStrings consHashes identifierRun.1 identifierRun.2 ∧
      generatedIds (registryLog identifierRun.2) = [clientIdPrefix ++ [0x30], clientIdPrefix ++ [0x31]] ∧
      generatedIds (registryLog identifierRun.2) =
        (List.range identifierRun.1.clients.nextClientSeq).map (fun k => clientIdPrefix ++ standardStrings.toString k) ∧
      (step standardStrings consHashes identifierRun.1 (⟨3, false, 0⟩, .addIBCApp 7)).toBool = false ∧
      ∀ e, step standardStrings consHashes identifierRun.1 (⟨3, false, 0⟩, .addIBCApp 7) = .error e →
        e = .IBCPortAlreadyExists (standardStrings.toHexString 7) := by
  have hS : standardStrings.Standard := ⟨rfl, rfl, rfl⟩
  have hreach : Reachable standardStrings consHashes identifierRun.1 identifierRun.2 := ⟨identifierCalls, rfl⟩
  have hids := router_identifier_namespaces (H := consHashes) hS hreach
  exact ⟨hS, hreach, by decide +kernel, hids.1, by decide +kernel, fun e h => (hids.2.2 _ 7 e h).1⟩

end ICS26Router
