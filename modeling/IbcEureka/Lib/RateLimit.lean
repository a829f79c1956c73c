/-
# Rate limits with refunds

A rate limiter meters what leaves a system during a window (a day). An outflow
is charged to a usage counter, and refused when it would take the usage above
the limit; an inflow is credited back, the usage stopping at zero. Since a
credit saturates, the usage is not the charges minus the credits. What holds,
from a window whose usage started at `start`, is an inequality:
`start + charged ≤ usage + credited`. Together with `usage ≤ limit` it bounds
what left during the window by the limit plus what came back:
`charged ≤ limit - start + credited`.

`Tally` is what a window has seen: its usage, and the totals charged and
credited. `Tally.Within` is the two inequalities. The window's opening
(`within_open`), an accepted charge (`Within.charge`) and any credit
(`Within.credit`) keep them, and they give the bound (`Within.charged_le`).

Key definitions: `RateLimit.Tally`, `RateLimit.Tally.Within`.
Key theorems: `RateLimit.Tally.Within.charge`, `RateLimit.Tally.Within.credit`,
`RateLimit.Tally.Within.charged_le`.
-/
import Mathlib.Order.Basic

namespace RateLimit

/-- What a rate-limit window has seen: the usage counter, and the totals charged to it and
credited back. -/
structure Tally where
  usage : ℕ
  charged : ℕ
  credited : ℕ

namespace Tally

/-- An outflow of `a`, charged. -/
def charge (t : Tally) (a : ℕ) : Tally := ⟨t.usage + a, t.charged + a, t.credited⟩

/-- An inflow of `a`: the usage goes down by `a`, stopping at zero. -/
def credit (t : Tally) (a : ℕ) : Tally := ⟨t.usage - a, t.charged, t.credited + a⟩

/-- The accounting of a window under `limit` whose usage started at `start`. -/
structure Within (limit start : ℕ) (t : Tally) : Prop where
  usage_le : t.usage ≤ limit
  net_le : start + t.charged ≤ t.usage + t.credited

variable {limit start : ℕ} {t : Tally}

/-- A window opens with nothing charged or credited. -/
theorem within_open (h : start ≤ limit) : Within limit start ⟨start, 0, 0⟩ :=
  ⟨h, Nat.le_refl start⟩

/-- A charge the limiter accepts keeps the accounting. -/
theorem Within.charge (h : Within limit start t) {a : ℕ} (ha : t.usage + a ≤ limit) :
    Within limit start (t.charge a) := by
  have hn := h.net_le
  exact ⟨ha, by simp only [Tally.charge]; omega⟩

/-- Any credit keeps the accounting: it lowers the usage by at most what it adds to the
credits, and by less when the usage stops at zero. -/
theorem Within.credit (h : Within limit start t) (a : ℕ) : Within limit start (t.credit a) := by
  have hu := h.usage_le
  have hn := h.net_le
  constructor
  · simp only [Tally.credit]; omega
  · simp only [Tally.credit]; omega

/-- **The net outflow bound.** What a window charged is at most the room it started with
plus what it was credited. -/
theorem Within.charged_le (h : Within limit start t) : t.charged ≤ limit - start + t.credited := by
  have hu := h.usage_le
  have hn := h.net_le
  omega

end Tally

end RateLimit
