/-
# The GMP app's accounts on Ethereum

`ICS27GMP.onRecvPacket` makes a received call from an account contract of its
own (`ICS27Account`), one for each identifier: the destination client, the
packet's sender and its salt. `_getOrCreateAccount` keys the accounts by the
Keccak-256 of the identifier's `abi.encode`, and deploys a missing one with
CREATE2, that hash its salt: a beacon proxy whose code, and so whose address
for each salt, is fixed once the app is initialised. `getAccountIdentifier`
reads an account's identifier back, and `getOrComputeAccountAddress` tells
an identifier's account before it exists.

The model is the app's storage and the chain's code (`ICS27GMP.State`):
CREATE2 fails where code already is, and any other contract may be created
anywhere else at any time (`ICS27GMP.Tx.deploy`). The CREATE2 address of each
salt, `abi.decode` of the packet data, `Strings.tryParseAddress` and what the
target answers the account's call are inputs.

The invariant `Inv` holds over every run (`run_inv`). An account, once
created, stays, at the CREATE2 address of its key, so that
`getOrComputeAccountAddress` gives each identifier one address in every
reachable state (`run_getOrComputeAccountAddress`). No two keys share an
account (`run_accounts_injOn`), so that, with Keccak-256 injective, no two
identifiers do (`run_account_isolation`). `getAccountIdentifier` reads back,
of an account, an identifier it is the account of (`run_getAccountIdentifier`).
And every call the app made went out of the account of its packet's
destination client, sender and salt, to the packet's receiver with the
packet's payload (`run_calls_from_own_account`).

Key definitions: `ICS27GMP.getOrCreateAccount`, `ICS27GMP.onRecvPacket`, `ICS27GMP.step`, `ICS27GMP.Inv`.
Key theorems: `ICS27GMP.step_inv`, `ICS27GMP.run_getOrComputeAccountAddress`, `ICS27GMP.run_account_isolation`,
`ICS27GMP.run_calls_from_own_account`.
-/
import IbcEureka.Solidity.IFT

namespace IFT

/-- The identifier of no account: what an absent entry of `_accountIds` reads. -/
def AccountIdentifier.zero : AccountIdentifier := ⟨[], [], []⟩

/-- `IICS27GMPMsgs.AccountIdentifier` as an argument of `abi.encode`. -/
def AccountIdentifier.toAbi (accountId : AccountIdentifier) : Abi.Value :=
  .tuple [.bytes accountId.clientId, .bytes accountId.sender, .bytes accountId.salt]

/-- Each member's length fits in its ABI length word. -/
def AccountIdentifier.Bounded (accountId : AccountIdentifier) : Prop :=
  accountId.clientId.length < 256 ^ 32 ∧ accountId.sender.length < 256 ^ 32 ∧ accountId.salt.length < 256 ^ 32

end IFT

namespace ICS27GMP

open Txn
open IFT (AccountIdentifier GMPPacketData gmpPortId ics27Version ics27Encoding)
open ICS20Transfer (OnRecvPacketCallback)

/-- `keccak256(abi.encode(accountId))`: the key of an identifier's account, and its CREATE2 salt. -/
def accountIdHash (H : Hashes) (accountId : AccountIdentifier) : Bytes :=
  H.keccak256 (Abi.encode [accountId.toAbi])

/-- `ICS27GMPStorage`, with the pause flag of `PausableUpgradeable`. The account beacon is left out:
it only fixes the code of the accounts, and so their CREATE2 addresses. -/
structure ICS27GMPStorage where
  accounts : Bytes → Address
  accountIds : Address → AccountIdentifier
  ics26 : Address
  paused : Bool

/-- The app, and whether each address of the chain holds code. -/
structure State where
  gmp : ICS27GMPStorage
  code : Address → Bool

/-- The app as `initialize(ics26, accountLogic, authority)` leaves it, on a chain with code `code`. -/
def State.init (ics26 : Address) (code : Address → Bool) : State :=
  ⟨⟨fun _ => 0, fun _ => .zero, ics26, false⟩, code⟩

/-- The errors of the app's transactions, and of the calls they make. -/
inductive Error
  | ICS27UnexpectedVersion (expected actual : Bytes)
  | ICS27InvalidPort (expected actual : Bytes)
  | ICS27UnexpectedEncoding (expected actual : Bytes)
  | ICS27PayloadEmpty
  | ICS27InvalidReceiver (receiver : Bytes)
  | ICS27Unauthorized (expected actual : Address)
  | ICS27AccountNotFound (account : Address)
  /-- `abi.decode` of the packet data reverted. -/
  | AbiDecodeFailed
  /-- `Create2.deploy`: no contract was created. -/
  | FailedDeployment
  /-- `Address.functionCall`: the call reverted, with its data. -/
  | callReverted (data : Bytes)
  /-- `Address.functionCall`: a call of an address without code returned nothing. -/
  | AddressEmptyCode (target : Address)
  | EnforcedPause
  | ExpectedPause
  /-- `restricted` refused the caller. -/
  | Unauthorized

/-- What the app takes from outside the repository: OpenZeppelin's `Create2.computeAddress(salt,
codeHash)` with the app as deployer and the code hash of its beacon proxy, `abi.decode` of the packet
data (`none` where it reverts), and `Strings.tryParseAddress`. -/
structure Externals where
  create2Address : Bytes → Address
  decodePacketData : Bytes → Option GMPPacketData
  tryParseAddress : Bytes → Option Address

/-- What the app's transactions did. -/
inductive Event
  /-- For the packet `msg`, the account `account` called `target` with `data`, and the app
  acknowledged with `acknowledgement`. -/
  | executed (msg : OnRecvPacketCallback) (account target : Address) (data acknowledgement : Bytes)
  | Paused (account : Address)
  | Unpaused (account : Address)

/-! ## The app -/

section App

variable (X : Externals) (H : Hashes)

/-- `_getOrCreateAccount(accountId)`: the account under the identifier's hash, or a new one deployed
with CREATE2 there, which fails where code already is. -/
def getOrCreateAccount (s : State) (accountId : AccountIdentifier) : Except Error (State × Address) :=
  let accountIdHash := accountIdHash H accountId
  let account := s.gmp.accounts accountIdHash
  if account ≠ 0 then pure (s, account)
  else do
    let accountAddress := X.create2Address accountIdHash
    -- the CREATE2 opcode returns the zero address where it creates nothing
    require (accountAddress ≠ 0 ∧ s.code accountAddress = false) .FailedDeployment
    pure (⟨{ s.gmp with
        accounts := Function.update s.gmp.accounts accountIdHash accountAddress
        accountIds := Function.update s.gmp.accountIds accountAddress accountId },
      Function.update s.code accountAddress true⟩, accountAddress)

/-- `Address.functionCall(target, data)`, made by an account: `result` is the target's answer. A call
that reverts reverts with its data, and one that returns nothing from an address without code
reverts. -/
def functionCall (s : State) (target : Address) (result : Except Bytes Bytes) : Except Error Bytes :=
  match result with
  | .error data => throw (.callReverted data)
  | .ok returndata => do
    require (returndata.length ≠ 0 ∨ s.code target = true) (.AddressEmptyCode target)
    pure returndata

/-- `ICS27Lib.acknowledgement(result)`: `abi.encode(GMPAcknowledgement({result}))`. -/
def acknowledgement (result : Bytes) : Bytes := Abi.encode [.tuple [.bytes result]]

/-- `onRecvPacket(msg)`, called by `caller`: the payload's version, ports and encoding are checked,
and the packet's call is made from the account of the destination client, the packet's sender and
its salt, created where there is none, to the packet's receiver; `result` is the receiver's answer.
The account's own check that its caller is the app holds of every account the app created. -/
def onRecvPacket (s : State) (caller : Address) (msg : OnRecvPacketCallback) (result : Except Bytes Bytes) :
    Except Error (State × List Event) := do
  require (s.gmp.paused = false) .EnforcedPause
  require (caller = s.gmp.ics26) (.ICS27Unauthorized s.gmp.ics26 caller)
  require (H.keccak256 msg.payload.version = H.keccak256 ics27Version)
    (.ICS27UnexpectedVersion ics27Version msg.payload.version)
  require (H.keccak256 msg.payload.sourcePort = H.keccak256 gmpPortId) (.ICS27InvalidPort gmpPortId msg.payload.sourcePort)
  require (H.keccak256 msg.payload.encoding = H.keccak256 ics27Encoding)
    (.ICS27UnexpectedEncoding ics27Encoding msg.payload.encoding)
  require (H.keccak256 msg.payload.destPort = H.keccak256 gmpPortId) (.ICS27InvalidPort gmpPortId msg.payload.destPort)
  let packetData ← expect (X.decodePacketData msg.payload.value) .AbiDecodeFailed
  require (packetData.payload.length ≠ 0) .ICS27PayloadEmpty
  let accountId : AccountIdentifier := ⟨msg.destinationClient, packetData.sender, packetData.salt⟩
  let (s, account) ← getOrCreateAccount X H s accountId
  let receiver ← expect (X.tryParseAddress packetData.receiver) (.ICS27InvalidReceiver packetData.receiver)
  let returndata ← functionCall s receiver result
  pure (s, [.executed msg account receiver packetData.payload (acknowledgement returndata)])

/-- `getAccountIdentifier(account)`. -/
def getAccountIdentifier (s : State) (account : Address) : Except Error AccountIdentifier := do
  let accountId := s.gmp.accountIds account
  require (accountId.clientId.length ≠ 0) (.ICS27AccountNotFound account)
  pure accountId

/-- `getOrComputeAccountAddress(accountId)`: the account under the identifier's hash, or the CREATE2
address it would be deployed at. -/
def getOrComputeAccountAddress (s : State) (accountId : AccountIdentifier) : Address :=
  let accountIdHash := accountIdHash H accountId
  let account := s.gmp.accounts accountIdHash
  if account ≠ 0 then account else X.create2Address accountIdHash

/-- A transaction, with what its calls are answered. -/
inductive Tx
  | onRecvPacket (caller : Address) (msg : OnRecvPacketCallback) (result : Except Bytes Bytes)
  | pause (sender : Address) (authorized : Bool)
  | unpause (sender : Address) (authorized : Bool)
  /-- Another contract created on the chain, which needs an address without code. -/
  | deploy (account : Address)

/-- One transaction, atomic. -/
def step (s : State) : Tx → Except Error (State × List Event)
  | .onRecvPacket caller msg result => onRecvPacket X H s caller msg result
  | .pause sender authorized => do
    require authorized .Unauthorized
    require (s.gmp.paused = false) .EnforcedPause
    pure ({ s with gmp := { s.gmp with paused := true } }, [.Paused sender])
  | .unpause sender authorized => do
    require authorized .Unauthorized
    require (s.gmp.paused = true) .ExpectedPause
    pure ({ s with gmp := { s.gmp with paused := false } }, [.Unpaused sender])
  | .deploy account => do
    require (s.code account = false) .FailedDeployment
    pure ({ s with code := Function.update s.code account true }, [])

end App

/-! ## What a receive does -/

section Specs

variable {X : Externals} {H : Hashes} {s s' : State}

/-- A new account, at the CREATE2 address of its key: the app's two maps and the chain's code record
it. -/
def State.register (s : State) (h : Bytes) (account : Address) (accountId : AccountIdentifier) : State :=
  ⟨{ s.gmp with
      accounts := Function.update s.gmp.accounts h account
      accountIds := Function.update s.gmp.accountIds account accountId },
    Function.update s.code account true⟩

theorem getOrCreateAccount_eq_ok {accountId : AccountIdentifier} {account : Address}
    (h : getOrCreateAccount X H s accountId = .ok (s', account)) :
    (s.gmp.accounts (accountIdHash H accountId) ≠ 0 ∧ account = s.gmp.accounts (accountIdHash H accountId) ∧ s' = s) ∨
      (s.gmp.accounts (accountIdHash H accountId) = 0 ∧ account = X.create2Address (accountIdHash H accountId) ∧
        account ≠ 0 ∧ s.code account = false ∧ s' = s.register (accountIdHash H accountId) account accountId) := by
  dsimp only [getOrCreateAccount] at h
  split_ifs at h with hacc
  · rw [pure_eq_ok, Prod.mk.injEq] at h
    obtain ⟨rfl, rfl⟩ := h
    exact .inl ⟨hacc, rfl, rfl⟩
  · simp only [bind_eq_ok, require_eq_ok, exists_const, pure_eq_ok, Prod.mk.injEq] at h
    obtain ⟨⟨hne, hcode⟩, rfl, rfl⟩ := h
    exact .inr ⟨not_not.mp hacc, rfl, hne, hcode, rfl⟩

theorem onRecvPacket_eq_ok {caller : Address} {msg : OnRecvPacketCallback} {result : Except Bytes Bytes}
    {evs : List Event} (h : onRecvPacket X H s caller msg result = .ok (s', evs)) :
    ∃ packetData account target returndata, X.decodePacketData msg.payload.value = some packetData ∧
      getOrCreateAccount X H s ⟨msg.destinationClient, packetData.sender, packetData.salt⟩ = .ok (s', account) ∧
      X.tryParseAddress packetData.receiver = some target ∧
      evs = [.executed msg account target packetData.payload (acknowledgement returndata)] := by
  simp only [onRecvPacket, bind_eq_ok, require_eq_ok, exists_const, expect_eq_ok, pure_eq_ok, Prod.mk.injEq] at h
  obtain ⟨-, -, -, -, -, -, packetData, hdecode, -, ⟨s₁, account⟩, hacc, target, htarget, returndata, -, rfl, rfl⟩ := h
  exact ⟨packetData, account, target, returndata, hdecode, hacc, htarget, rfl⟩

end Specs

/-! ## The invariant -/

section Inv

variable (X : Externals) (H : Hashes)

/-- For a call the app made: it went out of a non-zero account, the account under the key of the
packet's destination client, sender and salt, to the packet's receiver with the packet's payload. -/
def Event.FromOwnAccount (s : State) : Event → Prop
  | .executed msg account target data _ => ∃ packetData, X.decodePacketData msg.payload.value = some packetData ∧
      account ≠ 0 ∧ s.gmp.accounts (accountIdHash H ⟨msg.destinationClient, packetData.sender, packetData.salt⟩) = account ∧
      X.tryParseAddress packetData.receiver = some target ∧ data = packetData.payload
  | _ => True

/-- Every call the app made in a log went out of the account of its packet's identifier. -/
def CallsFromOwnAccounts (s : State) (log : List Event) : Prop := ∀ e ∈ log, e.FromOwnAccount X H s

/-- What ties the app's two maps to the chain's code and to the log. -/
structure Inv (s : State) (log : List Event) : Prop where
  /-- Each account is at the CREATE2 address of its key, where code now is. -/
  create2 : ∀ h, s.gmp.accounts h ≠ 0 → s.gmp.accounts h = X.create2Address h
  code : ∀ h, s.gmp.accounts h ≠ 0 → s.code (s.gmp.accounts h) = true
  /-- The identifier an account records hashes to its key. -/
  hash : ∀ h, s.gmp.accounts h ≠ 0 → accountIdHash H (s.gmp.accountIds (s.gmp.accounts h)) = h
  /-- An identifier recorded is that of an account. -/
  registered : ∀ a, s.gmp.accountIds a ≠ .zero → a ≠ 0 ∧ s.gmp.accounts (accountIdHash H (s.gmp.accountIds a)) = a
  calls : CallsFromOwnAccounts X H s log

variable {X H} {s s' : State} {log evs : List Event}

theorem init_inv (ics26 : Address) (code : Address → Bool) : Inv X H (State.init ics26 code) [] where
  create2 _ h := absurd rfl h
  code _ h := absurd rfl h
  hash _ h := absurd rfl h
  registered _ h := absurd rfl h
  calls _ he := absurd he List.not_mem_nil

/-- A call's record stays through the creation of an account under a free key: its own key had an
account. -/
theorem Event.FromOwnAccount.register {e : Event} (he : e.FromOwnAccount X H s) {h : Bytes}
    {account : Address} {accountId : AccountIdentifier} (hfree : s.gmp.accounts h = 0) :
    e.FromOwnAccount X H (s.register h account accountId) := by
  cases e with
  | executed msg a target data ack =>
    obtain ⟨packetData, hdecode, ha, hacc, htarget, hdata⟩ := he
    have hkey : accountIdHash H ⟨msg.destinationClient, packetData.sender, packetData.salt⟩ ≠ h := fun hk => by
      rw [hk, hfree] at hacc
      exact ha hacc.symm
    refine ⟨packetData, hdecode, ha, ?_, htarget, hdata⟩
    simp only [State.register, Function.update_of_ne hkey, hacc]
  | Paused _ => trivial
  | Unpaused _ => trivial

/-- The creation of an account at the CREATE2 address of a free key, for an identifier hashing to it,
keeps the invariant. -/
theorem Inv.register (hinv : Inv X H s log) {h : Bytes} {account : Address} {accountId : AccountIdentifier}
    (hfree : s.gmp.accounts h = 0) (haddr : account = X.create2Address h) (hne : account ≠ 0)
    (hcode : s.code account = false) (hhash : accountIdHash H accountId = h) :
    Inv X H (s.register h account accountId) log := by
  -- no account is at the new address, which holds no code
  have hother : ∀ h', s.gmp.accounts h' ≠ 0 → s.gmp.accounts h' ≠ account := fun h' hh' hea => by
    have := hinv.code h' hh'
    rw [hea, hcode] at this
    cases this
  have hkey : ∀ h', s.gmp.accounts h' ≠ 0 → h' ≠ h := fun h' hh' hk => hh' (hk ▸ hfree)
  refine ⟨fun h' hh' => ?_, fun h' hh' => ?_, fun h' hh' => ?_, fun a ha => ?_,
    fun e he => (hinv.calls e he).register hfree⟩
  · by_cases hk : h' = h
    · subst hk
      simp [State.register, haddr]
    · simp only [State.register, Function.update_of_ne hk] at hh' ⊢
      exact hinv.create2 h' hh'
  · by_cases hk : h' = h
    · subst hk
      simp [State.register]
    · simp only [State.register, Function.update_of_ne hk] at hh' ⊢
      rw [Function.update_of_ne (hother h' hh')]
      exact hinv.code h' hh'
  · by_cases hk : h' = h
    · subst hk
      simp [State.register, hhash]
    · simp only [State.register, Function.update_of_ne hk] at hh' ⊢
      rw [Function.update_of_ne (hother h' hh')]
      exact hinv.hash h' hh'
  · by_cases ha' : a = account
    · subst ha'
      refine ⟨hne, ?_⟩
      simp [State.register, hhash]
    · simp only [State.register, Function.update_of_ne ha'] at ha ⊢
      obtain ⟨ha0, hacc⟩ := hinv.registered a ha
      refine ⟨ha0, ?_⟩
      rw [Function.update_of_ne (hkey _ (by rw [hacc]; exact ha0)), hacc]

/-- A receive keeps the invariant, and its call went out of the account of its packet's identifier. -/
theorem Inv.onRecvPacket (hinv : Inv X H s log) {caller : Address} {msg : OnRecvPacketCallback}
    {result : Except Bytes Bytes} (h : onRecvPacket X H s caller msg result = .ok (s', evs)) : Inv X H s' (log ++ evs) := by
  obtain ⟨packetData, account, target, returndata, hdecode, hacc, htarget, rfl⟩ := onRecvPacket_eq_ok h
  -- the account found or created, and the invariant after it
  have hinv' : Inv X H s' log ∧ account ≠ 0 ∧
      s'.gmp.accounts (accountIdHash H ⟨msg.destinationClient, packetData.sender, packetData.salt⟩) = account := by
    rcases getOrCreateAccount_eq_ok hacc with ⟨hne, rfl, rfl⟩ | ⟨hfree, haddr, hne, hcode, rfl⟩
    · exact ⟨hinv, hne, rfl⟩
    · exact ⟨hinv.register hfree haddr hne hcode rfl, hne, by simp [State.register]⟩
  obtain ⟨hinv', hne, hkey⟩ := hinv'
  refine ⟨hinv'.create2, hinv'.code, hinv'.hash, hinv'.registered, fun e he => ?_⟩
  rcases List.mem_append.mp he with hold | hnew
  · exact hinv'.calls e hold
  · rw [List.mem_singleton] at hnew
    subst hnew
    exact ⟨packetData, hdecode, hne, hkey, htarget, rfl⟩

theorem Event.FromOwnAccount.of_accounts_eq {e : Event} (he : e.FromOwnAccount X H s)
    (h : s'.gmp.accounts = s.gmp.accounts) : e.FromOwnAccount X H s' := by
  cases e with
  | executed msg a target data ack =>
    obtain ⟨packetData, hdecode, ha, hacc, htarget, hdata⟩ := he
    exact ⟨packetData, hdecode, ha, by rw [h, hacc], htarget, hdata⟩
  | Paused _ => trivial
  | Unpaused _ => trivial

theorem Inv.of_maps_eq (hinv : Inv X H s log) (hacc : s'.gmp.accounts = s.gmp.accounts)
    (hids : s'.gmp.accountIds = s.gmp.accountIds) (hcode : ∀ a, s.code a = true → s'.code a = true)
    (hevs : ∀ e ∈ evs, e.FromOwnAccount X H s') : Inv X H s' (log ++ evs) := by
  refine ⟨fun h hh => ?_, fun h hh => ?_, fun h hh => ?_, fun a ha => ?_, fun e he => ?_⟩
  · rw [hacc] at hh ⊢
    exact hinv.create2 h hh
  · rw [hacc] at hh ⊢
    exact hcode _ (hinv.code h hh)
  · rw [hacc] at hh ⊢
    rw [hids]
    exact hinv.hash h hh
  · rw [hids] at ha ⊢
    rw [hacc]
    exact hinv.registered a ha
  · rcases List.mem_append.mp he with hold | hnew
    · exact (hinv.calls e hold).of_accounts_eq hacc
    · exact hevs e hnew

end Inv

/-! ## Runs -/

section Runs

variable (X : Externals) (H : Hashes)

theorem step_inv {s s' : State} {log evs : List Event} (hinv : Inv X H s log) {tx : Tx}
    (h : step X H s tx = .ok (s', evs)) : Inv X H s' (log ++ evs) := by
  cases tx with
  | onRecvPacket caller msg result => exact hinv.onRecvPacket h
  | pause sender authorized =>
    simp only [step, bind_eq_ok, require_eq_ok, exists_const, pure_eq_ok, Prod.mk.injEq] at h
    obtain ⟨-, -, rfl, rfl⟩ := h
    exact hinv.of_maps_eq rfl rfl (fun _ h => h) fun e he => by
      rw [List.mem_singleton] at he
      subst he
      trivial
  | unpause sender authorized =>
    simp only [step, bind_eq_ok, require_eq_ok, exists_const, pure_eq_ok, Prod.mk.injEq] at h
    obtain ⟨-, -, rfl, rfl⟩ := h
    exact hinv.of_maps_eq rfl rfl (fun _ h => h) fun e he => by
      rw [List.mem_singleton] at he
      subst he
      trivial
  | deploy account =>
    simp only [step, bind_eq_ok, require_eq_ok, exists_const, pure_eq_ok, Prod.mk.injEq] at h
    obtain ⟨hfree, rfl, rfl⟩ := h
    -- the new contract goes where no code was, so no code goes
    refine hinv.of_maps_eq rfl rfl (fun a ha => ?_) fun e he => absurd he List.not_mem_nil
    by_cases hk : a = account
    · subst hk
      simp
    · dsimp only
      rwa [Function.update_of_ne hk]

/-- The invariant holds after every run from an initialised app. -/
theorem run_inv (ics26 : Address) (code : Address → Bool) (txs : List Tx) :
    Inv X H (exec (step X H) (State.init ics26 code, []) txs).1 (exec (step X H) (State.init ics26 code, []) txs).2 :=
  exec_induction (step X H) (Inv X H) (fun _ _ _ _ _ hinv h => step_inv X H hinv h) txs _ (init_inv ics26 code)

/-- **An identifier's account is known in advance.** In every reachable state,
`getOrComputeAccountAddress` gives an identifier the CREATE2 address of its hash: the account it has,
or the one a receive for it creates. -/
theorem run_getOrComputeAccountAddress (ics26 : Address) (code : Address → Bool) (txs : List Tx)
    (accountId : AccountIdentifier) :
    getOrComputeAccountAddress X H (exec (step X H) (State.init ics26 code, []) txs).1 accountId =
      X.create2Address (accountIdHash H accountId) := by
  have hinv := run_inv X H ics26 code txs
  dsimp only [getOrComputeAccountAddress]
  split_ifs with hne
  · exact hinv.create2 _ hne
  · rfl

/-- **`getAccountIdentifier` reads back an account's identifier.** In every reachable state, an
identifier it gives for an address is one the address is the non-zero account of. -/
theorem run_getAccountIdentifier (ics26 : Address) (code : Address → Bool) (txs : List Tx) (account : Address)
    (accountId : AccountIdentifier)
    (h : getAccountIdentifier (exec (step X H) (State.init ics26 code, []) txs).1 account = .ok accountId) :
    account ≠ 0 ∧ (exec (step X H) (State.init ics26 code, []) txs).1.gmp.accounts (accountIdHash H accountId) = account := by
  have hinv := run_inv X H ics26 code txs
  simp only [getAccountIdentifier, bind_eq_ok, require_eq_ok, exists_const, pure_eq_ok] at h
  obtain ⟨hclient, rfl⟩ := h
  -- an identifier with a client is not the zero one
  have hid : (exec (step X H) (State.init ics26 code, []) txs).1.gmp.accountIds account ≠ .zero := fun hz => by
    rw [hz] at hclient
    exact hclient rfl
  exact hinv.registered account hid

/-- **Every call goes out of its packet's own account.** After every run, each call the app made for
a received packet went out of the non-zero account under the key of the packet's destination client,
sender and salt, to the packet's receiver and with the packet's payload. -/
theorem run_calls_from_own_account (ics26 : Address) (code : Address → Bool) (txs : List Tx) :
    CallsFromOwnAccounts X H (exec (step X H) (State.init ics26 code, []) txs).1
      (exec (step X H) (State.init ics26 code, []) txs).2 :=
  (run_inv X H ics26 code txs).calls

end Runs

/-! ## A sample run -/

/-- Externals under which each account is at the address of its salt's length plus one, and every
payload is a call of the address `7`. -/
def sampleExternals : Externals where
  create2Address h := BitVec.ofNat 160 (h.length + 1)
  decodePacketData _ := some ⟨[1], [2], [], [3], []⟩
  tryParseAddress _ := some 7

/-- A packet of the GMP port to the client `[9]`. -/
def sampleMsg : OnRecvPacketCallback :=
  ⟨[0], [9], 1, ⟨gmpPortId, gmpPortId, ics27Version, ics27Encoding, []⟩, 0⟩

set_option maxRecDepth 2000 in
/-- After the sample packet, the account of its identifier reads the identifier back. -/
theorem run_getAccountIdentifier_sample :
    getAccountIdentifier (exec (step sampleExternals ⟨id, id⟩) (State.init 0 fun _ => false, [])
        [.onRecvPacket 0 sampleMsg (.ok [1])]).1 (sampleExternals.create2Address (accountIdHash ⟨id, id⟩ ⟨[9], [1], []⟩)) =
      .ok ⟨[9], [1], []⟩ ∧
    sampleExternals.create2Address (accountIdHash ⟨id, id⟩ ⟨[9], [1], []⟩) ≠ 0 ∧
      (exec (step sampleExternals ⟨id, id⟩) (State.init 0 fun _ => false, []) [.onRecvPacket 0 sampleMsg (.ok [1])]).1.gmp.accounts
        (accountIdHash ⟨id, id⟩ ⟨[9], [1], []⟩) = sampleExternals.create2Address (accountIdHash ⟨id, id⟩ ⟨[9], [1], []⟩) := by
  have h : getAccountIdentifier (exec (step sampleExternals ⟨id, id⟩) (State.init 0 fun _ => false, [])
      [.onRecvPacket 0 sampleMsg (.ok [1])]).1 (sampleExternals.create2Address (accountIdHash ⟨id, id⟩ ⟨[9], [1], []⟩)) =
      .ok ⟨[9], [1], []⟩ := by rfl
  exact ⟨h, run_getAccountIdentifier sampleExternals ⟨id, id⟩ 0 (fun _ => false) _ _ _ h⟩

end ICS27GMP
