/-
# Transfers in flight

A bridge that sends tokens to another chain takes them from the sender first
(it burns or escrows them) and keeps a record of the transfer under a key, a
client and a packet sequence, until it learns what became of the packet: the
transfer then completes, and the tokens stay on the other side, or it is
refunded to its sender.

`Lifecycle r steps` says what the record `r` under one key and the steps taken
under that key can be together: no record and no step before a transfer
starts there; its sender and a positive amount while it is in flight; no
record again after it ended, which it does once, to its sender and for the
amount it started with. A bridge's step lemmas use the rules
`Lifecycle.start`, `Lifecycle.complete` and `Lifecycle.refund`, and read a
record back with `Lifecycle.eq_of_some` and `Lifecycle.eq_none_of_nil`.

Key definitions: `Pending.Step`, `Pending.Lifecycle`.
Key theorems: `Pending.Lifecycle.start`, `Pending.Lifecycle.complete`, `Pending.Lifecycle.refund`.
-/
import Mathlib

namespace Pending

/-- A step of a transfer: it starts, with a sender and an amount, and ends, completed or
refunded. -/
inductive Step (α : Type) where
  | initiated (sender : α) (amount : ℕ)
  | completed (sender : α) (amount : ℕ)
  | refunded (sender : α) (amount : ℕ)
  deriving DecidableEq, Repr

namespace Step

variable {α : Type}

/-- Whether a step ends the transfer. -/
def IsEnd : Step α → Bool
  | .initiated _ _ => false
  | _ => true

/-- Whether a step refunds the transfer. -/
def isRefund : Step α → Bool
  | .refunded _ _ => true
  | _ => false

end Step

/-- The record under a key, and the steps taken under it. -/
inductive Lifecycle {α : Type} : Option (α × ℕ) → List (Step α) → Prop
  | idle : Lifecycle none []
  | inFlight (u : α) (a : ℕ) : 0 < a → Lifecycle (some (u, a)) [.initiated u a]
  | completed (u : α) (a : ℕ) : 0 < a → Lifecycle none [.initiated u a, .completed u a]
  | refunded (u : α) (a : ℕ) : 0 < a → Lifecycle none [.initiated u a, .refunded u a]

namespace Lifecycle

variable {α : Type} {r : Option (α × ℕ)} {steps : List (Step α)} {u : α} {a : ℕ}

theorem eq_none_of_nil (h : Lifecycle r []) : r = none := by
  cases h
  rfl

/-- A transfer starts under a key nothing was taken under. -/
theorem start (h : Lifecycle r steps) (hnil : steps = []) (ha : 0 < a) :
    Lifecycle (some (u, a)) (steps ++ [.initiated u a]) := by
  subst hnil
  exact inFlight u a ha

/-- A record is the transfer in flight under its key. -/
theorem eq_of_some (h : Lifecycle (some (u, a)) steps) : steps = [.initiated u a] ∧ 0 < a := by
  cases h with
  | inFlight _ _ ha => exact ⟨rfl, ha⟩

/-- The transfer in flight completes, and its record goes. -/
theorem complete (h : Lifecycle (some (u, a)) steps) : Lifecycle none (steps ++ [.completed u a]) := by
  obtain ⟨rfl, ha⟩ := h.eq_of_some
  exact completed u a ha

/-- The transfer in flight is refunded, and its record goes. -/
theorem refund (h : Lifecycle (some (u, a)) steps) : Lifecycle none (steps ++ [.refunded u a]) := by
  obtain ⟨rfl, ha⟩ := h.eq_of_some
  exact refunded u a ha

end Lifecycle

end Pending
