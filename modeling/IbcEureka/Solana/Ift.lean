/-
# The IFT program's mint rate limit

The IFT program mints its token in three places: `ift_mint`, when a GMP
call from the bridge's counterparty arrives; `admin_mint`; and
`finalize_transfer`, which refunds a transfer that timed out or whose
acknowledgement is the universal error acknowledgement. All three go through
`mint_to_account`, which charges the amount to the mint's daily usage and
fails when that would pass `daily_mint_limit`. A transfer finalized with any
other acknowledgement has left for good, and `finalize_transfer` credits its
amount back to the usage, stopping at zero. A zero limit turns both off.

The usage belongs to the day in `rate_limit_day`. The first charge or credit
of a new day resets it (`maybe_reset_day`), so that what counts for a day
`D` is the stored usage when the stored day is `D`, and zero otherwise
(`usageOn`). A charge and a credit both set the stored day to the day of the
clock and the usage to that day's usage plus or minus the amount
(`checkAndUpdateMintRateLimit_eq_ok`, `reduceMintRateLimitUsage_eq`).

From a mint state with limit `L > 0` whose usage for day `D` is at most `L`,
along any calls on day `D` of the three instructions: the day's usage stays
at most `L`, once a call has succeeded the stored day is `D`, every
`mint_to_account` over the limit fails, and what was minted is at most
`L` less the usage the day started with, plus what successful transfers gave
back (`ift_mint_rate_limit`). The stored usage of an earlier day is not reset
by calls that fail, and it may stand above `L` (`stale_usage_above_limit`).

Account constraints are checked in the order the account structs declare
them; the accounts other than the mint state are the instruction's inputs.

Key definitions: `SolanaIft.IFTAppMintState`, `SolanaIft.mintToAccount`,
`SolanaIft.reduceMintRateLimitUsage`, `SolanaIft.step`, `SolanaIft.usageOn`.
Key theorems: `SolanaIft.checkAndUpdateMintRateLimit_eq_ok`, `SolanaIft.step_cases`,
`SolanaIft.step_dayInv`, `SolanaIft.ift_mint_rate_limit`.
-/
import IbcEureka.Solana.GmpAccount
import IbcEureka.Solana.Ics24
import IbcEureka.Lib.RateLimit
import IbcEureka.Lib.Txn

namespace SolanaIft

open Txn RateLimit SolanaGmp

/-- `SECONDS_PER_DAY`. -/
def secondsPerDay : ℕ := 60 * 60 * 24

/-- `IFTError`: the errors of the modelled instructions. -/
inductive IFTError
  | ZeroAmount
  | InvalidBridge
  | BridgeNotActive
  | InvalidReceiver
  | PendingTransferNotFound
  | TokenAccountOwnerMismatch
  | InvalidGmpAccount
  | GmpResultClientMismatch
  | GmpResultSequenceMismatch
  | GmpResultSenderMismatch
  | MintRateLimitExceeded
  | AppPaused
  | UnauthorizedAdmin
  | CpiNotAllowed
  deriving DecidableEq, Repr

/-- Why an instruction fails: an `IFTError`, or the token program refusing `mint_to`. -/
inductive Error
  | ift (e : IFTError)
  | tokenProgram
  deriving DecidableEq, Repr

/-- `IFTAppState`: the admin and the pause flag. -/
structure IFTAppState where
  admin : Pubkey
  paused : Bool
  deriving DecidableEq, Repr

/-- `IFTAppMintState`: the mint, its daily limit (0 for none), the day of the usage, and the
usage. -/
structure IFTAppMintState where
  mint : Pubkey
  dailyMintLimit : ℕ
  rateLimitDay : ℕ
  rateLimitDailyUsage : ℕ
  deriving DecidableEq, Repr

/-- `IFTBridge`. -/
structure IFTBridge where
  mint : Pubkey
  clientId : Bytes
  counterpartyIftAddress : Bytes
  active : Bool
  deriving DecidableEq, Repr

/-- `PendingTransfer`. -/
structure PendingTransfer where
  mint : Pubkey
  clientId : Bytes
  sequence : UInt64
  sender : Pubkey
  amount : ℕ
  deriving DecidableEq, Repr

/-- `CallResultStatus`: an acknowledgement, by its commitment, or a timeout. -/
inductive CallResultStatus
  | Acknowledgement (commitment : Bytes)
  | Timeout
  deriving DecidableEq, Repr

/-- `GMPCallResultAccount`: the fields `finalize_transfer` reads. -/
structure GMPCallResult where
  sender : Pubkey
  sequence : UInt64
  sourceClient : Bytes
  status : CallResultStatus
  deriving DecidableEq, Repr

/-- A token account: its mint and its owner. -/
structure TokenAccount where
  mint : Pubkey
  owner : Pubkey
  deriving DecidableEq, Repr

/-- `IFTMintMsg` and `AdminMintMsg`. -/
structure MintMsg where
  receiver : Pubkey
  amount : ℕ
  deriving DecidableEq, Repr

/-- `RefundReason`. -/
inductive RefundReason
  | Timeout
  | Failed
  deriving DecidableEq, Repr

/-- The events of the modelled instructions. -/
inductive Event
  | IFTMintReceived (mint : Pubkey) (clientId : Bytes) (receiver : Pubkey) (amount : ℕ) (gmpAccount : Pubkey)
      (timestamp : ℤ)
  | AdminMintExecuted (mint receiver : Pubkey) (amount : ℕ) (admin : Pubkey) (timestamp : ℤ)
  | IFTTransferRefunded (mint : Pubkey) (clientId : Bytes) (sequence : UInt64) (sender : Pubkey) (amount : ℕ)
      (reason : RefundReason) (timestamp : ℤ)
  | IFTTransferCompleted (mint : Pubkey) (clientId : Bytes) (sequence : UInt64) (sender : Pubkey) (amount : ℕ)
      (timestamp : ℤ)
  | MintRateLimitUpdated (mint : Pubkey) (dailyMintLimit : ℕ) (timestamp : ℤ)
  deriving DecidableEq, Repr

/-- What a successful instruction did: the token program's `mint_to`, of `amount` of `mint` into
a token account of `owner`, and the events. -/
inductive Output
  | mintTo (mint owner : Pubkey) (amount : ℕ)
  | event (e : Event)
  deriving DecidableEq, Repr

/-- What the runtime gives an instruction: the clock, what `reject_cpi` reads (the stack height
and the program of the transaction's instruction), and whether the token program's `mint_to`
succeeds. -/
structure Env where
  unixTimestamp : ℤ
  stackHeight : ℕ
  topLevelProgram : Pubkey
  mintToOk : Bool
  deriving DecidableEq, Repr

/-! ## The rate limit -/

/-- `current_day`: a clock before 1970 counts as day 0. -/
def currentDay (unixTimestamp : ℤ) : ℕ :=
  if unixTimestamp < 0 then 0 else unixTimestamp.toNat / secondsPerDay

/-- `maybe_reset_day`. -/
def maybeResetDay (m : IFTAppMintState) (unixTimestamp : ℤ) : IFTAppMintState :=
  let today := currentDay unixTimestamp
  if m.rateLimitDay ≠ today then { m with rateLimitDay := today, rateLimitDailyUsage := 0 } else m

/-- `check_and_update_mint_rate_limit`: with a limit, the day's usage plus `amount`, by a checked
`u64` addition, must stay within it, and becomes the usage. -/
def checkAndUpdateMintRateLimit (m : IFTAppMintState) (amount : ℕ) (unixTimestamp : ℤ) :
    Except IFTError IFTAppMintState :=
  if m.dailyMintLimit = 0 then .ok m
  else
    let m := maybeResetDay m unixTimestamp
    let newUsage := m.rateLimitDailyUsage + amount
    do
    require (newUsage < 2 ^ 64) .MintRateLimitExceeded
    require (newUsage ≤ m.dailyMintLimit) .MintRateLimitExceeded
    pure { m with rateLimitDailyUsage := newUsage }

/-- `reduce_mint_rate_limit_usage`: with a limit, the day's usage less `amount`, stopping at 0. -/
def reduceMintRateLimitUsage (m : IFTAppMintState) (amount : ℕ) (unixTimestamp : ℤ) : IFTAppMintState :=
  if m.dailyMintLimit = 0 then m
  else
    let m := maybeResetDay m unixTimestamp
    { m with rateLimitDailyUsage := m.rateLimitDailyUsage - amount }

/-- `mint_to_account`: the rate limit, then the token program's `mint_to`. -/
def mintToAccount (env : Env) (m : IFTAppMintState) (owner : Pubkey) (amount : ℕ) :
    Except Error (IFTAppMintState × List Output) := do
  let m ← (checkAndUpdateMintRateLimit m amount env.unixTimestamp).mapError .ift
  require (env.mintToOk = true) .tokenProgram
  pure (m, [.mintTo m.mint owner amount])

/-- What counts as the usage of day `D`: the stored usage if it is that day's, and nothing
otherwise. -/
def usageOn (D : ℕ) (m : IFTAppMintState) : ℕ := if m.rateLimitDay = D then m.rateLimitDailyUsage else 0

/-- The reset followed by a new usage is the usage stored under the clock's day. -/
theorem maybeResetDay_with (m : IFTAppMintState) (unixTimestamp : ℤ) (u : ℕ) :
    { maybeResetDay m unixTimestamp with rateLimitDailyUsage := u } =
      { m with rateLimitDay := currentDay unixTimestamp, rateLimitDailyUsage := u } := by
  unfold maybeResetDay
  dsimp only
  split
  · rfl
  · rename_i hsame
    rw [Decidable.not_not] at hsame
    rw [← hsame]

@[simp] theorem maybeResetDay_rateLimitDailyUsage (m : IFTAppMintState) (unixTimestamp : ℤ) :
    (maybeResetDay m unixTimestamp).rateLimitDailyUsage = usageOn (currentDay unixTimestamp) m := by
  unfold maybeResetDay usageOn
  dsimp only
  by_cases hsame : m.rateLimitDay = currentDay unixTimestamp
  · rw [if_neg (not_not_intro hsame), if_pos hsame]
  · rw [if_pos hsame, if_neg hsame]

@[simp] theorem maybeResetDay_dailyMintLimit (m : IFTAppMintState) (unixTimestamp : ℤ) :
    (maybeResetDay m unixTimestamp).dailyMintLimit = m.dailyMintLimit := by
  unfold maybeResetDay
  dsimp only
  split <;> rfl

@[simp] theorem maybeResetDay_mint (m : IFTAppMintState) (unixTimestamp : ℤ) :
    (maybeResetDay m unixTimestamp).mint = m.mint := by
  unfold maybeResetDay
  dsimp only
  split <;> rfl

@[simp] theorem maybeResetDay_rateLimitDay (m : IFTAppMintState) (unixTimestamp : ℤ) :
    (maybeResetDay m unixTimestamp).rateLimitDay = currentDay unixTimestamp := by
  unfold maybeResetDay
  dsimp only
  split
  · rfl
  · rename_i hsame
    exact Decidable.not_not.mp hsame

/-- After a charge or a credit on day `D`, the usage of `D` is the stored usage. -/
@[simp] theorem usageOn_with_day (D : ℕ) (m : IFTAppMintState) (u : ℕ) :
    usageOn D { m with rateLimitDay := D, rateLimitDailyUsage := u } = u := by
  simp [usageOn]

theorem checkAndUpdateMintRateLimit_eq_ok {m m' : IFTAppMintState} {amount : ℕ} {unixTimestamp : ℤ}
    (h : checkAndUpdateMintRateLimit m amount unixTimestamp = .ok m') :
    (m.dailyMintLimit = 0 ∧ m' = m) ∨
      (m.dailyMintLimit ≠ 0 ∧ usageOn (currentDay unixTimestamp) m + amount ≤ m.dailyMintLimit ∧
        m' = { m with
          rateLimitDay := currentDay unixTimestamp
          rateLimitDailyUsage := usageOn (currentDay unixTimestamp) m + amount }) := by
  unfold checkAndUpdateMintRateLimit at h
  by_cases hzero : m.dailyMintLimit = 0
  · rw [if_pos hzero] at h
    exact .inl ⟨hzero, (Except.ok.inj h).symm⟩
  · rw [if_neg hzero] at h
    simp only [require_bind_eq_ok, pure_eq_ok, maybeResetDay_rateLimitDailyUsage,
      maybeResetDay_dailyMintLimit, maybeResetDay_mint, maybeResetDay_rateLimitDay] at h
    obtain ⟨-, hle, rfl⟩ := h
    exact .inr ⟨hzero, hle, rfl⟩

/-- Over the limit, `check_and_update_mint_rate_limit` fails: on the overflow of the checked
addition or on the comparison. -/
theorem checkAndUpdateMintRateLimit_error {m : IFTAppMintState} {amount : ℕ} {unixTimestamp : ℤ}
    (hpos : m.dailyMintLimit ≠ 0) (hover : m.dailyMintLimit < usageOn (currentDay unixTimestamp) m + amount) :
    checkAndUpdateMintRateLimit m amount unixTimestamp = .error .MintRateLimitExceeded := by
  unfold checkAndUpdateMintRateLimit
  rw [if_neg hpos]
  dsimp only
  rw [maybeResetDay_rateLimitDailyUsage, maybeResetDay_dailyMintLimit]
  by_cases hword : usageOn (currentDay unixTimestamp) m + amount < 2 ^ 64
  · rw [require_bind_of_pos hword, require_bind_of_neg (Nat.not_le.mpr hover)]
  · rw [require_bind_of_neg hword]

theorem reduceMintRateLimitUsage_eq (m : IFTAppMintState) (amount : ℕ) (unixTimestamp : ℤ) :
    reduceMintRateLimitUsage m amount unixTimestamp =
      if m.dailyMintLimit = 0 then m
      else { m with
        rateLimitDay := currentDay unixTimestamp
        rateLimitDailyUsage := usageOn (currentDay unixTimestamp) m - amount } := by
  unfold reduceMintRateLimitUsage
  split
  · rfl
  · dsimp only
    rw [maybeResetDay_rateLimitDailyUsage, maybeResetDay_with]

theorem mintToAccount_eq_ok {env : Env} {m m' : IFTAppMintState} {owner : Pubkey} {amount : ℕ}
    {outs : List Output} (h : mintToAccount env m owner amount = .ok (m', outs)) :
    checkAndUpdateMintRateLimit m amount env.unixTimestamp = .ok m' ∧ outs = [.mintTo m'.mint owner amount] := by
  simp only [mintToAccount, bind_eq_ok, mapError_eq_ok, require_eq_ok, exists_const, pure_eq_ok,
    Prod.mk.injEq] at h
  obtain ⟨m₁, hcheck, -, rfl, rfl⟩ := h
  exact ⟨hcheck, rfl⟩

/-- **A mint over the limit fails, before anything is minted.** -/
theorem mintToAccount_error_of_exceeds {env : Env} {m : IFTAppMintState} {owner : Pubkey} {amount : ℕ}
    (hpos : m.dailyMintLimit ≠ 0) (hover : m.dailyMintLimit < usageOn (currentDay env.unixTimestamp) m + amount) :
    mintToAccount env m owner amount = .error (.ift .MintRateLimitExceeded) := by
  unfold mintToAccount
  rw [checkAndUpdateMintRateLimit_error hpos hover]
  rfl

/-- What an output minted. -/
def Output.mintedAmount : Output → ℕ
  | .mintTo _ _ amount => amount
  | .event _ => 0

/-- What an output reports as a transfer completed, whose amount left for good. -/
def Output.completedAmount : Output → ℕ
  | .event (.IFTTransferCompleted _ _ _ _ amount _) => amount
  | _ => 0

/-- What a log minted. -/
def minted (log : List Output) : ℕ := (log.map Output.mintedAmount).sum

/-- What a log reports as transfers completed. -/
def completed (log : List Output) : ℕ := (log.map Output.completedAmount).sum

@[simp] theorem minted_append (log outs : List Output) : minted (log ++ outs) = minted log + minted outs := by
  simp [minted]

@[simp] theorem completed_append (log outs : List Output) :
    completed (log ++ outs) = completed log + completed outs := by
  simp [completed]

/-! ## The instructions -/

section Instructions

-- the IFT program's id, `crate::ID`
variable (H : Hashes) (programId : Pubkey)

/-- `reject_cpi`: the instruction is the transaction's own, of this program. -/
def rejectCpi (env : Env) : Except Error Unit :=
  require (env.stackHeight ≤ 1 ∧ env.topLevelProgram = programId) (.ift .CpiNotAllowed)

/-- `ERROR_ACK_COMMITMENT`: `sha256(0x02 || sha256(UNIVERSAL_ERROR_ACK))`. -/
def errorAckCommitment : Bytes := H.sha256v [[Ics24.ibcVersion], H.sha256 Ics24.universalErrorAck]

/-- `validate_gmp_account`: the GMP account of the bridge's client and counterparty address,
with an empty salt. -/
def validateGmpAccount (gmpAccount : Pubkey) (clientId counterpartyAddress : Bytes) : Except Error Unit := do
  let clientId ← (Constrained.new clientId : Except ConstrainedError ClientId).mapError
    fun _ => .ift .InvalidGmpAccount
  let sender ← (Constrained.new counterpartyAddress : Except ConstrainedError Sender).mapError
    fun _ => .ift .InvalidGmpAccount
  let pda ← expect (GMPAccount.pda H ⟨clientId, sender, Salt.empty⟩) (.ift .InvalidGmpAccount)
  require (pda = gmpAccount) (.ift .InvalidGmpAccount)

/-- `ift_mint`, after the checks of `IFTMint`'s accounts. -/
def iftMint (env : Env) (app : IFTAppState) (m : IFTAppMintState) (bridge : IFTBridge)
    (receiverOwner gmpAccount : Pubkey) (msg : MintMsg) : Except Error (IFTAppMintState × List Output) := do
  require (app.paused = false) (.ift .AppPaused)
  require (bridge.mint = m.mint) (.ift .InvalidBridge)
  require (bridge.active = true) (.ift .BridgeNotActive)
  require (receiverOwner = msg.receiver) (.ift .InvalidReceiver)
  require (0 < msg.amount) (.ift .ZeroAmount)
  validateGmpAccount H gmpAccount bridge.clientId bridge.counterpartyIftAddress
  let (m, outs) ← mintToAccount env m receiverOwner msg.amount
  pure (m, outs ++
    [.event (.IFTMintReceived m.mint bridge.clientId msg.receiver msg.amount gmpAccount env.unixTimestamp)])

/-- `admin_mint`, after the checks of `AdminMint`'s accounts. -/
def adminMint (env : Env) (app : IFTAppState) (m : IFTAppMintState) (receiverOwner admin : Pubkey)
    (msg : MintMsg) : Except Error (IFTAppMintState × List Output) := do
  require (app.paused = false) (.ift .AppPaused)
  require (receiverOwner = msg.receiver) (.ift .InvalidReceiver)
  require (admin = app.admin) (.ift .UnauthorizedAdmin)
  rejectCpi programId env
  require (0 < msg.amount) (.ift .ZeroAmount)
  let (m, outs) ← mintToAccount env m receiverOwner msg.amount
  pure (m, outs ++ [.event (.AdminMintExecuted m.mint msg.receiver msg.amount admin env.unixTimestamp)])

/-- `finalize_transfer`, after the checks of `FinalizeTransfer`'s accounts: a refund of the
pending amount on a timeout or the error acknowledgement, the credit of it to the usage on any
other acknowledgement. -/
def finalizeTransfer (env : Env) (app : IFTAppState) (m : IFTAppMintState) (pending : PendingTransfer)
    (gmpResult : GMPCallResult) (senderTokenAccount : TokenAccount) (clientId : Bytes) (sequence : UInt64) :
    Except Error (IFTAppMintState × List Output) := do
  require (app.paused = false) (.ift .AppPaused)
  require (pending.mint = m.mint) (.ift .PendingTransferNotFound)
  require (pending.clientId = clientId) (.ift .GmpResultClientMismatch)
  require (pending.sequence = sequence) (.ift .GmpResultSequenceMismatch)
  require (senderTokenAccount.mint = m.mint) (.ift .TokenAccountOwnerMismatch)
  require (senderTokenAccount.owner = pending.sender) (.ift .TokenAccountOwnerMismatch)
  rejectCpi programId env
  require (gmpResult.sender = programId) (.ift .GmpResultSenderMismatch)
  require (gmpResult.sourceClient = clientId) (.ift .GmpResultClientMismatch)
  require (gmpResult.sequence = sequence) (.ift .GmpResultSequenceMismatch)
  let refund (reason : RefundReason) : Except Error (IFTAppMintState × List Output) := do
    let (m, outs) ← mintToAccount env m senderTokenAccount.owner pending.amount
    pure (m, outs ++ [.event (.IFTTransferRefunded m.mint pending.clientId pending.sequence pending.sender
      pending.amount reason env.unixTimestamp)])
  match gmpResult.status with
  | .Timeout => refund .Timeout
  | .Acknowledgement commitment =>
    if commitment = errorAckCommitment H then refund .Failed
    else
      let m := reduceMintRateLimitUsage m pending.amount env.unixTimestamp
      pure (m, [.event (.IFTTransferCompleted m.mint pending.clientId pending.sequence pending.sender
        pending.amount env.unixTimestamp)])

/-- `set_mint_rate_limit`, after the checks of `SetMintRateLimit`'s accounts. -/
def setMintRateLimit (env : Env) (app : IFTAppState) (m : IFTAppMintState) (admin : Pubkey)
    (dailyMintLimit : ℕ) : Except Error (IFTAppMintState × List Output) := do
  require (admin = app.admin) (.ift .UnauthorizedAdmin)
  rejectCpi programId env
  pure ({ m with dailyMintLimit := dailyMintLimit },
    [.event (.MintRateLimitUpdated m.mint dailyMintLimit env.unixTimestamp)])

/-- The instructions that write a mint state, each with the other accounts it is given. -/
inductive Instruction
  | iftMint (env : Env) (app : IFTAppState) (bridge : IFTBridge) (receiverOwner gmpAccount : Pubkey)
      (msg : MintMsg)
  | adminMint (env : Env) (app : IFTAppState) (receiverOwner admin : Pubkey) (msg : MintMsg)
  | finalizeTransfer (env : Env) (app : IFTAppState) (pending : PendingTransfer) (gmpResult : GMPCallResult)
      (senderTokenAccount : TokenAccount) (clientId : Bytes) (sequence : UInt64)
  | setMintRateLimit (env : Env) (app : IFTAppState) (admin : Pubkey) (dailyMintLimit : ℕ)
  deriving DecidableEq, Repr

/-- One instruction on the mint state. -/
def step (m : IFTAppMintState) : Instruction → Except Error (IFTAppMintState × List Output)
  | .iftMint env app bridge receiverOwner gmpAccount msg => iftMint H env app m bridge receiverOwner gmpAccount msg
  | .adminMint env app receiverOwner admin msg => adminMint programId env app m receiverOwner admin msg
  | .finalizeTransfer env app pending gmpResult senderTokenAccount clientId sequence =>
    finalizeTransfer H programId env app m pending gmpResult senderTokenAccount clientId sequence
  | .setMintRateLimit env app admin dailyMintLimit => setMintRateLimit programId env app m admin dailyMintLimit

/-- The runtime of an instruction. -/
def Instruction.env : Instruction → Env
  | .iftMint env .. => env
  | .adminMint env .. => env
  | .finalizeTransfer env .. => env
  | .setMintRateLimit env .. => env

/-- A mint followed by its event, which reports no completed transfer: the mint paths of the
three instructions. -/
theorem mint_then_event {env : Env} {m m' : IFTAppMintState} {owner : Pubkey} {amount : ℕ}
    {a : IFTAppMintState × List Output} {e : Event} {outs : List Output} (he : (Output.event e).completedAmount = 0)
    (hmint : mintToAccount env m owner amount = .ok a) (hm : a.1 = m') (houts : a.2 ++ [.event e] = outs) :
    checkAndUpdateMintRateLimit m amount env.unixTimestamp = .ok m' ∧ minted outs = amount ∧
      completed outs = 0 ∧ outs ≠ [] := by
  obtain ⟨m₁, outs₁⟩ := a
  obtain ⟨hcheck, rfl⟩ := mintToAccount_eq_ok hmint
  subst hm houts
  refine ⟨hcheck, ?_, ?_, by simp⟩
  · simp [minted, Output.mintedAmount]
  · simpa [completed, Output.completedAmount] using he

/-- **What a successful instruction does to the mint state.** It charges an amount to the rate
limit and mints it, or credits an amount back, or sets a new limit. -/
theorem step_cases {m m' : IFTAppMintState} {ix : Instruction} {outs : List Output}
    (h : step H programId m ix = .ok (m', outs)) :
    (∃ amount, checkAndUpdateMintRateLimit m amount ix.env.unixTimestamp = .ok m' ∧
        minted outs = amount ∧ completed outs = 0 ∧ outs ≠ []) ∨
      (∃ amount, m' = reduceMintRateLimitUsage m amount ix.env.unixTimestamp ∧
        minted outs = 0 ∧ completed outs = amount ∧ outs ≠ []) ∨
      (∃ env app admin dailyMintLimit, ix = .setMintRateLimit env app admin dailyMintLimit ∧
        m' = { m with dailyMintLimit := dailyMintLimit }) := by
  cases ix with
  | iftMint env app bridge receiverOwner gmpAccount msg =>
    simp only [step, iftMint, bind_eq_ok, require_eq_ok, exists_const, pure_eq_ok, Prod.mk.injEq] at h
    obtain ⟨-, -, -, -, -, -, -, a, hmint, hm, houts⟩ := h
    exact .inl ⟨_, mint_then_event rfl hmint hm houts⟩
  | adminMint env app receiverOwner admin msg =>
    simp only [step, adminMint, rejectCpi, bind_eq_ok, require_eq_ok, exists_const, pure_eq_ok,
      Prod.mk.injEq] at h
    obtain ⟨-, -, -, -, -, a, hmint, hm, houts⟩ := h
    exact .inl ⟨_, mint_then_event rfl hmint hm houts⟩
  | finalizeTransfer env app pending gmpResult senderTokenAccount clientId sequence =>
    simp only [step, finalizeTransfer, rejectCpi, bind_eq_ok, require_eq_ok, exists_const] at h
    obtain ⟨-, -, -, -, -, -, -, -, -, -, hstatus⟩ := h
    -- a refund on a timeout or the error acknowledgement, a credit on any other
    cases hs : gmpResult.status with
    | Timeout =>
      rw [hs] at hstatus
      simp only [bind_eq_ok, pure_eq_ok, Prod.mk.injEq] at hstatus
      obtain ⟨a, hmint, hm, houts⟩ := hstatus
      exact .inl ⟨_, mint_then_event rfl hmint hm houts⟩
    | Acknowledgement commitment =>
      rw [hs] at hstatus
      by_cases herror : commitment = errorAckCommitment H
      · simp only [if_pos herror, bind_eq_ok, pure_eq_ok, Prod.mk.injEq] at hstatus
        obtain ⟨a, hmint, hm, houts⟩ := hstatus
        exact .inl ⟨_, mint_then_event rfl hmint hm houts⟩
      · simp only [if_neg herror, pure_eq_ok, Prod.mk.injEq] at hstatus
        obtain ⟨rfl, rfl⟩ := hstatus
        exact .inr (.inl ⟨pending.amount, rfl, by simp [minted, Output.mintedAmount],
          by simp [completed, Output.completedAmount], by simp⟩)
  | setMintRateLimit env app admin dailyMintLimit =>
    simp only [step, setMintRateLimit, rejectCpi, bind_eq_ok, require_eq_ok, exists_const, pure_eq_ok,
      Prod.mk.injEq] at h
    obtain ⟨-, -, rfl, rfl⟩ := h
    exact .inr (.inr ⟨env, app, admin, dailyMintLimit, rfl, rfl⟩)

/-! ## One day of calls -/

/-- Whether an instruction is a call of one of the three mint-path instructions on day `D`. -/
def Instruction.onDay (D : ℕ) : Instruction → Bool
  | .setMintRateLimit .. => false
  | ix => currentDay ix.env.unixTimestamp == D

section Day

variable {H programId} (D L u₀ : ℕ)

/-- The accounting of day `D` under the limit `L`, for a day whose usage was `u₀` when the calls
began: the limit stands; the usage of `D`, with what the log minted and what it gave back, keeps
the inequalities of a window opened at `u₀`; and once a call has succeeded the stored day is `D`. -/
def DayInv (m : IFTAppMintState) (log : List Output) : Prop :=
  m.dailyMintLimit = L ∧ Tally.Within L u₀ ⟨usageOn D m, minted log, completed log⟩ ∧
    (log ≠ [] → m.rateLimitDay = D)

variable {D L u₀}

/-- **Every call of the day keeps the day's accounting.** A mint is a charge the limit allowed,
a completed transfer a credit, both under the day of the clock, which is `D`. -/
theorem step_dayInv (hpos : 0 < L) {m m' : IFTAppMintState} {log outs : List Output} {ix : Instruction}
    (hday : ix.onDay D = true) (hinv : DayInv D L u₀ m log) (h : step H programId m ix = .ok (m', outs)) :
    DayInv D L u₀ m' (log ++ outs) := by
  obtain ⟨hlimit, hwithin, -⟩ := hinv
  have hnz : m.dailyMintLimit ≠ 0 := by omega
  have hclock : currentDay ix.env.unixTimestamp = D := by
    cases ix with
    | setMintRateLimit => simp [Instruction.onDay] at hday
    | _ => simpa [Instruction.onDay] using hday
  rcases step_cases H programId h with ⟨amount, hcheck, hminted, hcompleted, -⟩ |
    ⟨amount, rfl, hminted, hcompleted, -⟩ | ⟨env, app, admin, limit, rfl, -⟩
  · -- a charge the limit allowed
    rcases checkAndUpdateMintRateLimit_eq_ok hcheck with ⟨hzero, -⟩ | ⟨-, hle, rfl⟩
    · exact absurd hzero hnz
    · rw [hclock] at hle ⊢
      have hcharge := hwithin.charge (a := amount) (by rw [← hlimit]; exact hle)
      refine ⟨hlimit, ?_, fun _ => rfl⟩
      simpa [Tally.charge, hminted, hcompleted] using hcharge
  · -- a credit of a completed transfer
    rw [reduceMintRateLimitUsage_eq, if_neg hnz, hclock]
    have hcredit := hwithin.credit amount
    refine ⟨hlimit, ?_, fun _ => rfl⟩
    simpa [Tally.credit, hminted, hcompleted] using hcredit
  · simp [Instruction.onDay] at hday

/-- **The IFT mint rate limit.** Take a mint state with limit `L > 0` whose usage for day `D`
is at most `L`, and any calls of `ift_mint`, `admin_mint` and `finalize_transfer` on day `D`, with
any accounts. Afterwards the usage of day `D` is at most `L`; once a call has succeeded, the
stored day is `D` and the stored usage at most `L`; every `mint_to_account` on day `D` that would
take the usage above `L` fails; and what was minted is at most `L` less the usage the day started
with, plus what completed transfers gave back. -/
theorem ift_mint_rate_limit {m₀ : IFTAppMintState} {D L : ℕ} (hL : m₀.dailyMintLimit = L) (hpos : 0 < L)
    (hu₀ : usageOn D m₀ ≤ L) {ixs : List Instruction} (hday : ∀ ix ∈ ixs, ix.onDay D = true)
    {m : IFTAppMintState} {log : List Output} (hrun : exec (step H programId) (m₀, []) ixs = (m, log)) :
    usageOn D m ≤ L ∧ (log ≠ [] → m.rateLimitDay = D ∧ m.rateLimitDailyUsage ≤ L) ∧
      (∀ env owner amount, currentDay env.unixTimestamp = D → L < usageOn D m + amount →
        mintToAccount env m owner amount = .error (.ift .MintRateLimitExceeded)) ∧
      minted log ≤ L - usageOn D m₀ + completed log := by
  have hopen : DayInv D L (usageOn D m₀) m₀ [] := ⟨hL, Tally.within_open hu₀, fun hne => absurd rfl hne⟩
  have hinv : DayInv D L (usageOn D m₀) m log := by
    have h := exec_induction_on (step H programId) (fun ix => ix.onDay D = true) (DayInv D L (usageOn D m₀))
      (fun _ _ _ _ _ hix hs hstep => step_dayInv hpos hix hs hstep) ixs (m₀, []) hday hopen
    rwa [hrun] at h
  obtain ⟨hlimit, hwithin, hstored⟩ := hinv
  refine ⟨hwithin.usage_le, ?_, ?_, hwithin.charged_le⟩
  · intro hne
    have hd := hstored hne
    have hle := hwithin.usage_le
    refine ⟨hd, ?_⟩
    simpa [usageOn, hd] using hle
  · intro env owner amount hclock hover
    exact mintToAccount_error_of_exceeds (by omega) (by rw [hclock, hlimit]; exact hover)

end Day

/-- The hashes of the sample runs: the identity. -/
def sampleHashes : Hashes := ⟨id, id⟩

/-- A mint state of day 1 with limit 10 and a usage of 4. -/
def sampleMintState : IFTAppMintState := ⟨[1], 10, 1, 4⟩

/-- Day 1: an admin mint of 5, then a transfer of 6 finalized with a success acknowledgement. -/
def sampleDay : List Instruction :=
  [.adminMint ⟨86400, 1, [9], true⟩ ⟨[7], false⟩ [2] [7] ⟨[2], 5⟩,
    .finalizeTransfer ⟨86401, 1, [9], true⟩ ⟨[7], false⟩ ⟨[1], [3], 1, [5], 6⟩
      ⟨[9], 1, [3], .Acknowledgement [0]⟩ ⟨[1], [5]⟩ [3] 1]

theorem ift_mint_rate_limit_sample :
    sampleMintState.dailyMintLimit = 10 ∧ 0 < 10 ∧ usageOn 1 sampleMintState ≤ 10 ∧
      (∀ ix ∈ sampleDay, ix.onDay 1 = true) ∧
      let r := exec (step sampleHashes [9]) (sampleMintState, []) sampleDay
      usageOn 1 r.1 ≤ 10 ∧ (r.2 ≠ [] → r.1.rateLimitDay = 1 ∧ r.1.rateLimitDailyUsage ≤ 10) ∧
        (∀ env owner amount, currentDay env.unixTimestamp = 1 → 10 < usageOn 1 r.1 + amount →
          mintToAccount env r.1 owner amount = .error (.ift .MintRateLimitExceeded)) ∧
        minted r.2 ≤ 10 - usageOn 1 sampleMintState + completed r.2 := by
  have hu₀ : usageOn 1 sampleMintState ≤ 10 := by decide
  have hday : ∀ ix ∈ sampleDay, ix.onDay 1 = true := by decide
  exact ⟨rfl, by decide, hu₀, hday, ift_mint_rate_limit rfl (by decide) hu₀ hday rfl⟩

/-- The sample day minted 5 and gave back 6, ending at a usage of 3. -/
example : exec (step sampleHashes [9]) (sampleMintState, []) sampleDay =
    (⟨[1], 10, 1, 3⟩,
      [.mintTo [1] [2] 5, .event (.AdminMintExecuted [1] [2] 5 [7] 86400),
        .event (.IFTTransferCompleted [1] [3] 1 [5] 6 86401)]) := by
  decide

/-- Day 0 of the stale state: with a limit of 30, an admin mint of 25, then the limit set to 10. -/
def staleHistory : List Instruction :=
  [.adminMint ⟨0, 1, [9], true⟩ ⟨[7], false⟩ [2] [7] ⟨[2], 25⟩,
    .setMintRateLimit ⟨1, 1, [9], true⟩ ⟨[7], false⟩ [7] 10]

/-- Day 1 of the stale state: an admin mint of nothing, which fails. -/
def staleDay : List Instruction := [.adminMint ⟨86400, 1, [9], true⟩ ⟨[7], false⟩ [2] [7] ⟨[2], 0⟩]

/-- **The stored usage of an earlier day may stand above the limit.** After the day-0 history the
mint state has the limit 10 and the usage 25 of day 0; on day 1 its usage is 0, within the limit,
and after day 1's failed call the stored usage is still 25. -/
theorem stale_usage_above_limit :
    (exec (step sampleHashes [9]) (⟨[1], 30, 0, 0⟩, []) staleHistory).1 = ⟨[1], 10, 0, 25⟩ ∧
      usageOn 1 ⟨[1], 10, 0, 25⟩ ≤ 10 ∧ (∀ ix ∈ staleDay, ix.onDay 1 = true) ∧
      10 < (exec (step sampleHashes [9]) (⟨[1], 10, 0, 25⟩, []) staleDay).1.rateLimitDailyUsage := by
  decide

end Instructions

end SolanaIft
