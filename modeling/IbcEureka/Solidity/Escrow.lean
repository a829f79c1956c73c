/-
# The escrow and its daily rate limit

`Escrow` holds the tokens that ICS20 transfers lock. Only the ICS20 contract
may take tokens out (`send`) or report tokens coming in (`recvCallback`).
Through `RateLimitUpgradeable` a token may have a daily limit. A `send`
charges its amount to the token's usage for the day and reverts when that
would pass the limit; a `recvCallback` credits its amount back, the usage
stopping at zero. The usage is stored under
`keccak256(abi.encodePacked(block.timestamp / 1 days, token))`, a new key each
day, so that every day starts from zero.

`Output` records what a successful call did: the transfer out of a `send`,
the amount of a `recvCallback`. `sent` and `received` total them for a token.

With Keccak-256 injective, from a freshly initialised escrow, after any calls
on days before that of `now` and any calls on that day that leave the
token's limit at `L > 0`: the day's usage is at most `L`, every `send` that
would take it above `L` reverts, and what `send` moved out during the day is
at most `L` plus what `recvCallback` reported (`escrow_daily_limit`). Each
call of an earlier day writes another key (`getDailyTokenKey_inj`), so the
day opens at zero; each call of the day keeps the accounting of
`RateLimit.Tally` (`step_within`).

Key definitions: `Escrow.EscrowStorage`, `Escrow.getDailyTokenKey`,
`Escrow.assertAndUpdateRateLimit`, `Escrow.reduceDailyUsage`, `Escrow.step`.
Key theorems: `Escrow.getDailyTokenKey_inj`, `Escrow.send_error_of_exceeds`,
`Escrow.step_within`, `Escrow.escrow_daily_limit`.
-/
import IbcEureka.Solidity.IBCStore
import IbcEureka.Lib.RateLimit
import IbcEureka.Lib.Txn

namespace Escrow

open Txn RateLimit

/-- `RATE_LIMIT_PERIOD`: one day, in seconds. -/
def rateLimitPeriod : ℕ := 86400

/-- The errors a call into the escrow reverts with. -/
inductive Revert
  /-- `EscrowUnauthorized(sender)`: the caller is not the ICS20 contract. -/
  | EscrowUnauthorized (sender : Address)
  | RateLimitExceeded (rateLimit usage : ℕ)
  /-- `Panic(0x11)`: the usage overflowed. -/
  | ArithmeticOverflow
  /-- `SafeERC20FailedOperation(token)`: the token's transfer failed. -/
  | SafeERC20FailedOperation (token : Address)
  /-- `AccessManagedUnauthorized(caller)`. -/
  | AccessManagedUnauthorized (caller : Address)
  deriving DecidableEq, Repr

/-- `EscrowStorage._ics20`, and `RateLimitStorage`: the limit of each token and the usage under
each daily token key. -/
structure EscrowStorage where
  ics20 : Address
  rateLimits : Address → ℕ
  dailyUsage : Bytes → ℕ

/-- The storage that `initialize(ics20_, authority)` leaves on a fresh proxy: no limit, no usage. -/
def EscrowStorage.init (ics20 : Address) : EscrowStorage := ⟨ics20, fun _ => 0, fun _ => 0⟩

/-- What the caller and the chain give a call: `msg.sender`, the access manager's verdict for a
`restricted` entry point, and `block.timestamp`. -/
structure Env where
  sender : Address
  authorized : Bool
  timestamp : BitVec 256

/-- What a successful call did. -/
inductive Output
  /-- `token.safeTransfer(to, amount)` out of the escrow, `to` being `recipient`. -/
  | transfer (token recipient : Address) (amount : ℕ)
  /-- `recvCallback` took note of `amount` of `token` coming in. -/
  | recvCallback (token : Address) (amount : ℕ)
  deriving DecidableEq, Repr

variable (H : Hashes)

/-- `_getDailyTokenKey(token)`. -/
def getDailyTokenKey (timestamp : BitVec 256) (token : Address) : Bytes :=
  H.keccak256 (Abi.encodePacked [.uint 32 (timestamp.toNat / rateLimitPeriod), .fixedBytes 20 token])

/-- `getDailyUsage(token)`. -/
def getDailyUsage (timestamp : BitVec 256) (s : EscrowStorage) (token : Address) : ℕ :=
  s.dailyUsage (getDailyTokenKey H timestamp token)

/-- `_assertAndUpdateRateLimit(token, amount)`: no limit, no check; otherwise the checked sum of
the day's usage and `amount` must stay within the limit, and becomes the usage. -/
def assertAndUpdateRateLimit (timestamp : BitVec 256) (s : EscrowStorage) (token : Address) (amount : ℕ) :
    Except Revert EscrowStorage :=
  let rateLimit := s.rateLimits token
  if rateLimit = 0 then pure s
  else do
    let dailyTokenKey := getDailyTokenKey H timestamp token
    let usage := s.dailyUsage dailyTokenKey + amount
    require (usage < 2 ^ 256) .ArithmeticOverflow
    require (usage ≤ rateLimit) (.RateLimitExceeded rateLimit usage)
    pure { s with dailyUsage := Function.update s.dailyUsage dailyTokenKey usage }

/-- `_reduceDailyUsage(token, amount)`: the day's usage goes down by `amount`, stopping at zero. -/
def reduceDailyUsage (timestamp : BitVec 256) (s : EscrowStorage) (token : Address) (amount : ℕ) :
    EscrowStorage :=
  let rateLimit := s.rateLimits token
  if rateLimit = 0 then s
  else
    let dailyTokenKey := getDailyTokenKey H timestamp token
    let usage := s.dailyUsage dailyTokenKey
    if usage > amount then { s with dailyUsage := Function.update s.dailyUsage dailyTokenKey (usage - amount) }
    else { s with dailyUsage := Function.update s.dailyUsage dailyTokenKey 0 }

/-- The modifier `onlyICS20`. -/
def onlyICS20 (s : EscrowStorage) (sender : Address) : Except Revert Unit :=
  require (sender = s.ics20) (.EscrowUnauthorized sender)

/-- `send(token, to, amount)`, `to` being `recipient`; `transferOk` is whether the token's
`transfer` succeeds. -/
def send (env : Env) (s : EscrowStorage) (token recipient : Address) (amount : ℕ) (transferOk : Bool) :
    Except Revert (EscrowStorage × List Output) := do
  onlyICS20 s env.sender
  let s ← assertAndUpdateRateLimit H env.timestamp s token amount
  require (transferOk = true) (.SafeERC20FailedOperation token)
  pure (s, [.transfer token recipient amount])

/-- `recvCallback(token, _, amount)`. -/
def recvCallback (env : Env) (s : EscrowStorage) (token : Address) (amount : ℕ) :
    Except Revert (EscrowStorage × List Output) := do
  onlyICS20 s env.sender
  pure (reduceDailyUsage H env.timestamp s token amount, [.recvCallback token amount])

/-- `setRateLimit(token, rateLimit)`, `restricted`. -/
def setRateLimit (env : Env) (s : EscrowStorage) (token : Address) (rateLimit : ℕ) :
    Except Revert (EscrowStorage × List Output) := do
  require (env.authorized = true) (.AccessManagedUnauthorized env.sender)
  pure ({ s with rateLimits := Function.update s.rateLimits token rateLimit }, [])

/-- The entry points that write the escrow's storage. -/
inductive Call
  | send (token recipient : Address) (amount : ℕ) (transferOk : Bool)
  | recvCallback (token : Address) (amount : ℕ)
  | setRateLimit (token : Address) (rateLimit : ℕ)
  deriving DecidableEq, Repr

/-- One call to the escrow. -/
def step (s : EscrowStorage) : Env × Call → Except Revert (EscrowStorage × List Output)
  | (env, .send token recipient amount transferOk) => send H env s token recipient amount transferOk
  | (env, .recvCallback token amount) => recvCallback H env s token amount
  | (env, .setRateLimit token rateLimit) => setRateLimit env s token rateLimit

/-- Whether a call leaves the limit of `token` at `L`. -/
def Call.keepsRateLimit (token : Address) (L : ℕ) : Call → Bool
  | .setRateLimit t rateLimit => t != token || rateLimit == L
  | _ => true

/-- What an output moved out of the escrow in `token`. -/
def Output.sentAmount (token : Address) : Output → ℕ
  | .transfer t _ amount => if t = token then amount else 0
  | .recvCallback _ _ => 0

/-- What an output reported coming in, in `token`. -/
def Output.receivedAmount (token : Address) : Output → ℕ
  | .transfer _ _ _ => 0
  | .recvCallback t amount => if t = token then amount else 0

/-- What `send` moved out in `token`, over a log. -/
def sent (token : Address) (log : List Output) : ℕ := (log.map (Output.sentAmount token)).sum

/-- What `recvCallback` reported in `token`, over a log. -/
def received (token : Address) (log : List Output) : ℕ := (log.map (Output.receivedAmount token)).sum

@[simp] theorem sent_nil (token : Address) : sent token [] = 0 := rfl

@[simp] theorem received_nil (token : Address) : received token [] = 0 := rfl

@[simp] theorem sent_append (token : Address) (log evs : List Output) :
    sent token (log ++ evs) = sent token log + sent token evs := by
  simp [sent]

@[simp] theorem received_append (token : Address) (log evs : List Output) :
    received token (log ++ evs) = received token log + received token evs := by
  simp [received]

/-! ## The daily token key -/

theorem day_lt (timestamp : BitVec 256) : timestamp.toNat / rateLimitPeriod < 256 ^ 32 := by
  have h := timestamp.isLt
  have h32 : (256 : ℕ) ^ 32 = 2 ^ 256 := by norm_num
  rw [h32]
  exact lt_of_le_of_lt (Nat.div_le_self _ _) h

/-- Keccak-256 injective, two calls share a daily token key only for one token on one day. -/
theorem getDailyTokenKey_inj (hk : Function.Injective H.keccak256) {timestamp timestamp' : BitVec 256}
    {token token' : Address} (h : getDailyTokenKey H timestamp token = getDailyTokenKey H timestamp' token') :
    timestamp.toNat / rateLimitPeriod = timestamp'.toNat / rateLimitPeriod ∧ token = token' := by
  have hpacked := hk h
  simp only [Abi.encodePacked_cons, Abi.encodePacked_nil, Abi.Packed.encode_uint,
    Abi.Packed.encode_fixedBytes, List.append_nil] at hpacked
  obtain ⟨hday, haddr⟩ := List.append_inj hpacked (by simp)
  have h20 : (256 : ℕ) ^ 20 = 2 ^ 160 := by norm_num
  refine ⟨Bytes.be_inj_of_lt hday (day_lt timestamp) (day_lt timestamp'), ?_⟩
  exact BitVec.toNat_inj.mp (Bytes.be_inj_of_lt haddr (h20 ▸ token.isLt) (h20 ▸ token'.isLt))

/-! ## What each call does -/

theorem assertAndUpdateRateLimit_eq_ok {timestamp : BitVec 256} {s s' : EscrowStorage} {token : Address}
    {amount : ℕ} (h : assertAndUpdateRateLimit H timestamp s token amount = .ok s') :
    (s.rateLimits token = 0 ∧ s' = s) ∨
      (s.rateLimits token ≠ 0 ∧ getDailyUsage H timestamp s token + amount ≤ s.rateLimits token ∧
        s' = { s with dailyUsage := (Function.update s.dailyUsage (getDailyTokenKey H timestamp token)
          (getDailyUsage H timestamp s token + amount)) }) := by
  unfold assertAndUpdateRateLimit at h
  dsimp only at h
  by_cases hzero : s.rateLimits token = 0
  · rw [if_pos hzero, pure_eq_ok] at h
    exact .inl ⟨hzero, h.symm⟩
  · rw [if_neg hzero] at h
    simp only [require_bind_eq_ok, pure_eq_ok] at h
    obtain ⟨-, hle, rfl⟩ := h
    exact .inr ⟨hzero, hle, rfl⟩

/-- Over the limit, `_assertAndUpdateRateLimit` reverts: on the overflow of the addition or on
the comparison. -/
theorem assertAndUpdateRateLimit_error {timestamp : BitVec 256} {s : EscrowStorage} {token : Address}
    {amount : ℕ} (hpos : s.rateLimits token ≠ 0)
    (hover : s.rateLimits token < getDailyUsage H timestamp s token + amount) :
    ∃ e, assertAndUpdateRateLimit H timestamp s token amount = .error e := by
  unfold assertAndUpdateRateLimit getDailyUsage at *
  dsimp only
  rw [if_neg hpos]
  by_cases hword : s.dailyUsage (getDailyTokenKey H timestamp token) + amount < 2 ^ 256
  · exact ⟨_, by rw [require_bind_of_pos hword, require_bind_of_neg (Nat.not_le.mpr hover)]⟩
  · exact ⟨_, require_bind_of_neg hword⟩

theorem reduceDailyUsage_eq (timestamp : BitVec 256) (s : EscrowStorage) (token : Address) (amount : ℕ) :
    reduceDailyUsage H timestamp s token amount =
      if s.rateLimits token = 0 then s
      else { s with dailyUsage := (Function.update s.dailyUsage (getDailyTokenKey H timestamp token)
        (getDailyUsage H timestamp s token - amount)) } := by
  unfold reduceDailyUsage getDailyUsage
  dsimp only
  by_cases hzero : s.rateLimits token = 0
  · rw [if_pos hzero, if_pos hzero]
  · rw [if_neg hzero, if_neg hzero]
    by_cases hgt : s.dailyUsage (getDailyTokenKey H timestamp token) > amount
    · rw [if_pos hgt]
    · rw [if_neg hgt, Nat.sub_eq_zero_of_le (Nat.le_of_not_gt hgt)]

theorem step_eq_ok {s s' : EscrowStorage} {env : Env} {c : Call} {evs : List Output}
    (h : step H s (env, c) = .ok (s', evs)) :
    (∃ token recipient amount transferOk, c = .send token recipient amount transferOk ∧ env.sender = s.ics20 ∧
      assertAndUpdateRateLimit H env.timestamp s token amount = .ok s' ∧ evs = [.transfer token recipient amount]) ∨
    (∃ token amount, c = .recvCallback token amount ∧ env.sender = s.ics20 ∧
      s' = reduceDailyUsage H env.timestamp s token amount ∧ evs = [.recvCallback token amount]) ∨
    (∃ token rateLimit, c = .setRateLimit token rateLimit ∧
      s' = { s with rateLimits := Function.update s.rateLimits token rateLimit } ∧ evs = []) := by
  cases c with
  | send token recipient amount transferOk =>
    simp only [step, send, onlyICS20, bind_eq_ok, require_eq_ok, pure_eq_ok, exists_const, Prod.mk.injEq] at h
    obtain ⟨hsender, s₁, hrate, -, rfl, rfl⟩ := h
    exact .inl ⟨token, recipient, amount, transferOk, rfl, hsender, hrate, rfl⟩
  | recvCallback token amount =>
    simp only [step, recvCallback, onlyICS20, require_bind_eq_ok, pure_eq_ok, Prod.mk.injEq] at h
    obtain ⟨hsender, rfl, rfl⟩ := h
    exact .inr (.inl ⟨token, amount, rfl, hsender, rfl, rfl⟩)
  | setRateLimit token rateLimit =>
    simp only [step, setRateLimit, require_bind_eq_ok, pure_eq_ok, Prod.mk.injEq] at h
    obtain ⟨-, rfl, rfl⟩ := h
    exact .inr (.inr ⟨token, rateLimit, rfl, rfl, rfl⟩)

/-- **A `send` over the limit reverts.** When `token` has a limit and `amount` would take the
day's usage past it, `send` reverts, whoever calls it. -/
theorem send_error_of_exceeds {s : EscrowStorage} {env : Env} {token recipient : Address} {amount : ℕ}
    {transferOk : Bool} (hpos : s.rateLimits token ≠ 0)
    (hover : s.rateLimits token < getDailyUsage H env.timestamp s token + amount) :
    ∃ e, step H s (env, .send token recipient amount transferOk) = .error e := by
  simp only [step, send, onlyICS20]
  by_cases hsender : env.sender = s.ics20
  · obtain ⟨e, he⟩ := assertAndUpdateRateLimit_error H hpos hover
    exact ⟨e, by rw [require_bind_of_pos hsender, he]; rfl⟩
  · exact ⟨_, require_bind_of_neg hsender⟩

theorem step_dailyUsage_of_ne {s s' : EscrowStorage} {env : Env} {c : Call} {evs : List Output} {k : Bytes}
    (h : step H s (env, c) = .ok (s', evs)) (hk : ∀ token, getDailyTokenKey H env.timestamp token ≠ k) :
    s'.dailyUsage k = s.dailyUsage k := by
  rcases step_eq_ok H h with ⟨token, -, amount, -, -, -, hrate, -⟩ | ⟨token, amount, -, -, rfl, -⟩ |
    ⟨-, -, -, rfl, -⟩
  · rcases assertAndUpdateRateLimit_eq_ok H hrate with ⟨-, rfl⟩ | ⟨-, -, rfl⟩
    · rfl
    · exact Function.update_of_ne (hk token).symm _ _
  · rw [reduceDailyUsage_eq]
    split
    · rfl
    · exact Function.update_of_ne (hk token).symm _ _
  · rfl

/-! ## One day of calls -/

section Day

variable (now : BitVec 256) (t : Address) (L : ℕ)

/-- The accounting of the day of `now` for `t`: the limit is `L`, and the day's usage with what
the log shows sent and received keeps the inequalities of a window opened at zero. -/
def DayInv (s : EscrowStorage) (log : List Output) : Prop :=
  s.rateLimits t = L ∧ Tally.Within L 0 ⟨getDailyUsage H now s t, sent t log, received t log⟩

/-- A call of the day, which leaves the limit of `t` at `L`. -/
def OfDay (c : Env × Call) : Prop :=
  c.1.timestamp.toNat / rateLimitPeriod = now.toNat / rateLimitPeriod ∧ c.2.keepsRateLimit t L = true

instance (c : Env × Call) : Decidable (OfDay now t L c) := inferInstanceAs (Decidable (_ ∧ _))

variable {now t L}

theorem getDailyUsage_of_ne (hk : Function.Injective H.keccak256) {timestamp : BitVec 256} {token : Address}
    {u : ℕ} (s : EscrowStorage) (hne : token ≠ t ∨ timestamp.toNat / rateLimitPeriod ≠ now.toNat / rateLimitPeriod) :
    getDailyUsage H now { s with dailyUsage := Function.update s.dailyUsage (getDailyTokenKey H timestamp token) u } t =
      getDailyUsage H now s t := by
  have hkey : getDailyTokenKey H now t ≠ getDailyTokenKey H timestamp token := by
    intro heq
    obtain ⟨hday, htoken⟩ := getDailyTokenKey_inj H hk heq
    rcases hne with hne | hne
    · exact hne htoken.symm
    · exact hne hday.symm
  unfold getDailyUsage
  dsimp only
  rw [Function.update_of_ne hkey]

/-- **Every call of the day keeps the day's accounting.** A `send` of `t` is a charge the limit
allows, a `recvCallback` of `t` a credit; every other call leaves the usage of `t`, its limit
and its totals alone. -/
theorem step_within (hk : Function.Injective H.keccak256) (hpos : 0 < L) {s s' : EscrowStorage}
    {log evs : List Output} {c : Env × Call} (hday : OfDay now t L c) (hinv : DayInv H now t L s log) (h : step H s c = .ok (s', evs)) :
    DayInv H now t L s' (log ++ evs) := by
  obtain ⟨env, c⟩ := c
  obtain ⟨hsame, hkeep⟩ := hday
  obtain ⟨hlimit, hwithin⟩ := hinv
  have hkey : getDailyTokenKey H env.timestamp t = getDailyTokenKey H now t := by
    simp only [getDailyTokenKey, hsame]
  rcases step_eq_ok H h with ⟨token, recipient, amount, -, rfl, -, hrate, rfl⟩ |
    ⟨token, amount, rfl, -, rfl, rfl⟩ | ⟨token, rateLimit, rfl, rfl, rfl⟩
  · rcases assertAndUpdateRateLimit_eq_ok H hrate with ⟨hzero, rfl⟩ | ⟨hpos, hle, rfl⟩
    · -- a token without a limit is not `t`, and moves nothing of `t`
      have hne : token ≠ t := by rintro rfl; omega
      simpa [DayInv, hlimit, sent, received, Output.sentAmount, Output.receivedAmount, hne] using hwithin
    · by_cases htoken : token = t
      · -- the charge of `t`, which the limit allows
        subst htoken
        have hcharge := hwithin.charge (a := amount) (by
          rw [← hlimit, getDailyUsage, ← hkey]; exact hle)
        refine ⟨hlimit, ?_⟩
        simpa [getDailyUsage, hkey, Tally.charge, sent, received, Output.sentAmount,
          Output.receivedAmount] using hcharge
      · refine ⟨hlimit, ?_⟩
        rw [getDailyUsage_of_ne H hk s (.inl htoken)]
        simpa [sent, received, Output.sentAmount, Output.receivedAmount, htoken] using hwithin
  · rw [reduceDailyUsage_eq]
    split
    · rename_i hzero
      have hne : token ≠ t := by rintro rfl; omega
      simpa [DayInv, hlimit, sent, received, Output.sentAmount, Output.receivedAmount, hne] using hwithin
    · by_cases htoken : token = t
      · -- the credit of `t`
        subst htoken
        have hcredit := hwithin.credit amount
        refine ⟨hlimit, ?_⟩
        simpa [getDailyUsage, hkey, Tally.credit, sent, received, Output.sentAmount,
          Output.receivedAmount] using hcredit
      · refine ⟨hlimit, ?_⟩
        rw [getDailyUsage_of_ne H hk s (.inl htoken)]
        simpa [sent, received, Output.sentAmount, Output.receivedAmount, htoken] using hwithin
  · -- a new limit for another token, or `L` again for `t`
    have hlimit' : Function.update s.rateLimits token rateLimit t = L := by
      simp only [Call.keepsRateLimit, Bool.or_eq_true, bne_iff_ne, ne_eq, beq_iff_eq] at hkeep
      rcases hkeep with hne | rfl
      · rw [Function.update_of_ne (Ne.symm hne)]; exact hlimit
      · by_cases htoken : t = token
        · subst htoken; simp
        · rw [Function.update_of_ne htoken]; exact hlimit
    exact ⟨hlimit', by simpa [getDailyUsage] using hwithin⟩

/-- **No call before the day writes its usage.** Every call of an earlier day writes under a key
of its own day, so the usage of `t` for the day of `now` stays what it was. -/
theorem run_getDailyUsage_before (hk : Function.Injective H.keccak256) {pre : List (Env × Call)}
    (hpre : ∀ c ∈ pre, c.1.timestamp.toNat / rateLimitPeriod < now.toNat / rateLimitPeriod)
    (p : EscrowStorage × List Output) (h0 : getDailyUsage H now p.1 t = 0) :
    getDailyUsage H now (exec (step H) p pre).1 t = 0 := by
  refine exec_induction_on (step H) (fun c => c.1.timestamp.toNat / rateLimitPeriod < now.toNat / rateLimitPeriod)
    (fun s _ => getDailyUsage H now s t = 0) ?_ pre p hpre h0
  intro s log c s' evs hearlier hs hstep
  -- the call's keys are all of its own day, which is not the day of `now`
  have hother : ∀ token, getDailyTokenKey H c.1.timestamp token ≠ getDailyTokenKey H now t := by
    intro token heq
    exact Nat.ne_of_lt hearlier (getDailyTokenKey_inj H hk heq).1
  unfold getDailyUsage at hs ⊢
  rw [step_dailyUsage_of_ne H hstep hother, hs]

/-- **The escrow's daily rate limit.** Keccak-256 injective, take a freshly initialised escrow,
any calls on days before that of `now` after which `t` has the limit `L > 0`, and then any calls
on that day that leave the limit in place. After them the day's usage of `t` is at most `L`,
every `send` of `t` on that day that would take the usage above `L` reverts, and what the day's
`send`s moved out in `t` is at most `L` plus what its `recvCallback`s reported. -/
theorem escrow_daily_limit (hk : Function.Injective H.keccak256) {ics20 : Address} {pre day : List (Env × Call)}
    {s₀ s : EscrowStorage} {log₀ log : List Output}
    (hpre : ∀ c ∈ pre, c.1.timestamp.toNat / rateLimitPeriod < now.toNat / rateLimitPeriod)
    (hrun₀ : exec (step H) (EscrowStorage.init ics20, []) pre = (s₀, log₀)) (hL : s₀.rateLimits t = L)
    (hpos : 0 < L) (hday : ∀ c ∈ day, OfDay now t L c) (hrun : exec (step H) (s₀, []) day = (s, log)) :
    getDailyUsage H now s t ≤ L ∧
      (∀ env recipient amount transferOk,
        env.timestamp.toNat / rateLimitPeriod = now.toNat / rateLimitPeriod → L < getDailyUsage H now s t + amount →
          ∃ e, step H s (env, .send t recipient amount transferOk) = .error e) ∧
      sent t log ≤ L + received t log := by
  -- the day opens at zero
  have hzero : getDailyUsage H now s₀ t = 0 := by
    have h := run_getDailyUsage_before H (t := t) hk hpre (EscrowStorage.init ics20, []) rfl
    rwa [hrun₀] at h
  -- and every call of the day keeps its accounting
  have hinv : DayInv H now t L s log := by
    have hopen : DayInv H now t L s₀ [] := ⟨hL, by rw [hzero]; exact Tally.within_open (Nat.zero_le L)⟩
    have h := exec_induction_on (step H) (OfDay now t L) (DayInv H now t L)
      (fun _ _ _ _ _ hc hs hstep => step_within H hk hpos hc hs hstep) day (s₀, []) hday hopen
    rwa [hrun] at h
  obtain ⟨hlimit, hwithin⟩ := hinv
  refine ⟨hwithin.usage_le, ?_, ?_⟩
  · intro env recipient amount transferOk hsame hover
    have hkey : getDailyUsage H env.timestamp s t = getDailyUsage H now s t := by
      simp only [getDailyUsage, getDailyTokenKey, hsame]
    exact send_error_of_exceeds H (by omega) (by rw [hlimit, hkey]; exact hover)
  · have hbound := hwithin.charged_le
    simpa using hbound

end Day

/-- The hashes of the sample run: the identity, which is injective. -/
def sampleHashes : Hashes := ⟨id, id⟩

/-- The day before: a limit of 10 for token 7. -/
def samplePre : List (Env × Call) := [(⟨0, true, 0⟩, .setRateLimit 7 10)]

/-- The day: a send of 4, a `recvCallback` of 3, then a send of 9, which meets the limit. -/
def sampleDay : List (Env × Call) :=
  [(⟨1, false, 86400⟩, .send 7 2 4 true), (⟨1, false, 86401⟩, .recvCallback 7 3),
    (⟨1, false, 86402⟩, .send 7 2 9 true)]

theorem escrow_daily_limit_sample :
    (∀ c ∈ samplePre, c.1.timestamp.toNat / rateLimitPeriod < (86400 : BitVec 256).toNat / rateLimitPeriod) ∧
      (exec (step sampleHashes) (EscrowStorage.init 1, []) samplePre).1.rateLimits 7 = 10 ∧
      (∀ c ∈ sampleDay, OfDay 86400 7 10 c) ∧
      let r := exec (step sampleHashes) ((exec (step sampleHashes) (EscrowStorage.init 1, []) samplePre).1, []) sampleDay
      getDailyUsage sampleHashes 86400 r.1 7 ≤ 10 ∧
        (∀ env recipient amount transferOk,
          env.timestamp.toNat / rateLimitPeriod = (86400 : BitVec 256).toNat / rateLimitPeriod →
            10 < getDailyUsage sampleHashes 86400 r.1 7 + amount →
              ∃ e, step sampleHashes r.1 (env, .send 7 recipient amount transferOk) = .error e) ∧
        sent 7 r.2 ≤ 10 + received 7 r.2 := by
  have hpre : ∀ c ∈ samplePre, c.1.timestamp.toNat / rateLimitPeriod < (86400 : BitVec 256).toNat / rateLimitPeriod := by
    decide
  have hL : (exec (step sampleHashes) (EscrowStorage.init 1, []) samplePre).1.rateLimits 7 = 10 := by decide
  have hday : ∀ c ∈ sampleDay, OfDay 86400 7 10 c := by decide
  exact ⟨hpre, hL, hday, escrow_daily_limit sampleHashes Function.injective_id hpre rfl hL (by decide) hday rfl⟩

/-- The bound is met: the day sent 13, the limit of 10 plus the 3 that came back. -/
example :
    sent 7 (exec (step sampleHashes) ((exec (step sampleHashes) (EscrowStorage.init 1, []) samplePre).1, [])
      sampleDay).2 = 13 := by decide

end Escrow
