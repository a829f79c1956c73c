/-
# Results that may also panic

A Rust function returns `Ok`, returns `Err` with one of its error values, or
panics: an `unwrap` of `None`, an integer division by zero. A panic aborts the
whole call (a CosmWasm contract call traps), so it is not one of the function's
errors, and "the function never panics" is a statement about which of the two
failures a call ends in. `Fault ε` is either failure; a function of the model
returns `Except (Fault ε) α`.

The Rust forms are definitions over `Txn.require` and `Txn.expect`: `ensure!`
is `Fault.ensure`, `ok_or(e)?` is `Fault.okOr`, `unwrap` is `Fault.unwrap`,
`?` on a `Result` is `Fault.lift`, u64 `/` is `Fault.div`, and `map_err` on a
result whose panics pass through is `Fault.mapErr`. Each has the lemma that
says when it succeeds.

Key definitions: `Fault`, `Fault.ensure`, `Fault.unwrap`, `Fault.div`.
Key theorems: `Fault.ensure_eq_ok`, `Fault.unwrap_eq_ok`, `Fault.div_eq_ok`.
-/
import IbcEureka.Lib.Txn

/-- The two ways a call fails: an error it returns, or a panic. -/
inductive Fault (ε : Type) where
  | error (e : ε)
  | panic
  deriving DecidableEq, Repr

namespace Fault

variable {ε ε' α : Type}

/-- An error changed by `f`; a panic stays a panic. -/
def map (f : ε → ε') : Fault ε → Fault ε'
  | .error e => .error (f e)
  | .panic => .panic

/-- `ensure!(c, e)`. -/
def ensure (c : Prop) [Decidable c] (e : ε) : Except (Fault ε) Unit := Txn.require c (.error e)

/-- `o.ok_or(e)?`. -/
def okOr (o : Option α) (e : ε) : Except (Fault ε) α := Txn.expect o (.error e)

/-- `o.unwrap()`, which panics on `None`. -/
def unwrap (o : Option α) : Except (Fault ε) α := Txn.expect o .panic

/-- `?` on a `Result` whose function cannot panic. -/
def lift (x : Except ε α) : Except (Fault ε) α := x.mapError .error

/-- `.map_err(f)?` on a call that may panic. -/
def mapErr (f : ε → ε') (x : Except (Fault ε) α) : Except (Fault ε') α := x.mapError (map f)

/-- u64 division, which panics on a zero divisor. -/
def div (a b : UInt64) : Except (Fault ε) UInt64 := if b = 0 then .error .panic else .ok (a / b)

@[simp] theorem ensure_eq_ok {c : Prop} [Decidable c] {e : ε} {u : Unit} :
    ensure c e = .ok u ↔ c := Txn.require_eq_ok

theorem ensure_bind_eq_ok {β : Type} {c : Prop} [Decidable c] {e : ε} {f : Unit → Except (Fault ε) β} {r : β} :
    ensure c e >>= f = .ok r ↔ c ∧ f () = .ok r := Txn.require_bind_eq_ok

@[simp] theorem okOr_eq_ok {o : Option α} {e : ε} {a : α} : okOr o e = .ok a ↔ o = some a :=
  Txn.expect_eq_ok

@[simp] theorem unwrap_eq_ok {o : Option α} {a : α} : (unwrap o : Except (Fault ε) α) = .ok a ↔ o = some a :=
  Txn.expect_eq_ok

@[simp] theorem lift_eq_ok {x : Except ε α} {a : α} : lift x = .ok a ↔ x = .ok a :=
  Txn.mapError_eq_ok

@[simp] theorem mapErr_eq_ok {f : ε → ε'} {x : Except (Fault ε) α} {a : α} : mapErr f x = .ok a ↔ x = .ok a :=
  Txn.mapError_eq_ok

@[simp] theorem div_eq_ok {a b q : UInt64} : (div a b : Except (Fault ε) UInt64) = .ok q ↔ b ≠ 0 ∧ q = a / b := by
  unfold div
  split <;> simp_all [eq_comm]

@[simp] theorem unwrap_none : (unwrap none : Except (Fault ε) α) = .error .panic := rfl

@[simp] theorem mapErr_panic {f : ε → ε'} : (mapErr f (.error .panic) : Except (Fault ε') α) = .error .panic := rfl

end Fault
