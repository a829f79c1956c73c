/-
# Fungible tokens

A fungible token (an ERC20 contract, an SPL mint) keeps a balance for each
holder and a total supply. A transfer moves an amount from one holder to
another, a mint creates an amount at a holder, a burn destroys one; a transfer
or a burn fails when the holder's balance is short. Allowances, hooks and
events are left to the models that use a token.

`Token` carries the standard's invariant as a field: no set of holders holds
more than the supply. It is what lets a burn take its amount off the supply
without running below zero, so that each operation is undone by its inverse:
a transfer by the transfer back (`Token.transfer_back`), a burn by the mint of
the same amount to the same holder (`Token.burn_mint`).

Key definitions: `Fungible.Token`, `Fungible.Token.transfer`, `Fungible.Token.mint`,
`Fungible.Token.burn`.
Key theorems: `Fungible.Token.transfer_back`, `Fungible.Token.burn_mint`, `Fungible.finsum_update_add`.
-/
import Mathlib

namespace Fungible

open Finset

variable {α : Type} [DecidableEq α]

/-- Over a set holding `a`, writing `v` at `a` trades `f a` for `v` in the sum. -/
theorem sum_update_add {f : α → ℕ} {s : Finset α} {a : α} (ha : a ∈ s) (v : ℕ) :
    ∑ x ∈ s, Function.update f a v x + f a = ∑ x ∈ s, f x + v := by
  rw [sum_update_of_mem ha, sum_eq_add_sum_sdiff_singleton_of_mem ha f]
  omega

theorem support_update_subset (f : α → ℕ) (a : α) (v : ℕ) :
    Function.support (Function.update f a v) ⊆ insert a (Function.support f) := by
  intro x hx
  by_cases hxa : x = a
  · exact Or.inl hxa
  · rw [Function.mem_support, Function.update_of_ne hxa] at hx
    exact Or.inr hx

/-- The same over a function of finite support, summed everywhere. -/
theorem finsum_update_add {f : α → ℕ} (hf : (Function.support f).Finite) (a : α) (v : ℕ) :
    ∑ᶠ x, Function.update f a v x + f a = ∑ᶠ x, f x + v := by
  -- both sums are over the support of `f` and `a`
  have hsub : insert a (Function.support f) ⊆ ↑(insert a hf.toFinset) := by
    rw [coe_insert, Set.Finite.coe_toFinset]
  rw [finsum_eq_sum_of_support_subset _ ((support_update_subset f a v).trans hsub),
    finsum_eq_sum_of_support_subset _ ((Set.subset_insert a _).trans hsub)]
  exact sum_update_add (mem_insert_self a _) v

theorem support_update_finite {f : α → ℕ} (hf : (Function.support f).Finite) (a : α) (v : ℕ) :
    (Function.support (Function.update f a v)).Finite :=
  (hf.insert a).subset (support_update_subset f a v)

/-- The balances and the total supply of a token, no set of holders holding more than the
supply. -/
@[ext]
structure Token (α : Type) where
  balanceOf : α → ℕ
  totalSupply : ℕ
  sum_le : ∀ s : Finset α, ∑ a ∈ s, balanceOf a ≤ totalSupply

namespace Token

variable (t : Token α)

omit [DecidableEq α] in
theorem balanceOf_le (a : α) : t.balanceOf a ≤ t.totalSupply := by
  simpa using t.sum_le {a}

/-- A token nobody holds. -/
def empty : Token α := ⟨fun _ => 0, 0, fun _ => by simp⟩

/-- `_mint(a, n)`: `n` more at `a` and in the supply. -/
def mint (a : α) (n : ℕ) : Token α where
  balanceOf := Function.update t.balanceOf a (t.balanceOf a + n)
  totalSupply := t.totalSupply + n
  sum_le s := by
    -- the sum over `s` is at most the sum over `s` and `a`, which the mint raises by `n`
    have hle := t.sum_le (insert a s)
    have hsum := sum_update_add (f := t.balanceOf) (mem_insert_self a s) (t.balanceOf a + n)
    have hsub := sum_le_sum_of_subset (f := Function.update t.balanceOf a (t.balanceOf a + n))
      (subset_insert a s)
    omega

/-- `_burn(a, n)`: `n` less at `a` and in the supply, or a failure when `a` holds less. -/
def burn (a : α) (n : ℕ) : Option (Token α) :=
  if hn : n ≤ t.balanceOf a then
    some
      { balanceOf := Function.update t.balanceOf a (t.balanceOf a - n)
        totalSupply := t.totalSupply - n
        sum_le := fun s => by
          -- the sum over `s` and `a` falls by `n`, from at most the supply
          have hle := t.sum_le (insert a s)
          have hsum := sum_update_add (f := t.balanceOf) (mem_insert_self a s) (t.balanceOf a - n)
          have hsub := sum_le_sum_of_subset (f := Function.update t.balanceOf a (t.balanceOf a - n))
            (subset_insert a s)
          omega }
  else none

/-- `transfer(src, dst, n)` (and `transferFrom` without the allowance): `n` moves from `src` to
`dst`, or a failure when `src` holds less. -/
def transfer (src dst : α) (n : ℕ) : Option (Token α) :=
  if hn : n ≤ t.balanceOf src then
    some
      { balanceOf := Function.update (Function.update t.balanceOf src (t.balanceOf src - n)) dst
          (Function.update t.balanceOf src (t.balanceOf src - n) dst + n)
        totalSupply := t.totalSupply
        sum_le := fun s => by
          -- over `s`, `src` and `dst` the debit and the credit cancel out
          have hsrc : src ∈ insert src (insert dst s) := mem_insert_self _ _
          have hdst : dst ∈ insert src (insert dst s) := mem_insert_of_mem (mem_insert_self _ _)
          have hle := t.sum_le (insert src (insert dst s))
          have hdebit := sum_update_add (f := t.balanceOf) hsrc (t.balanceOf src - n)
          have hcredit := sum_update_add (f := Function.update t.balanceOf src (t.balanceOf src - n)) hdst
            (Function.update t.balanceOf src (t.balanceOf src - n) dst + n)
          have hsub := sum_le_sum_of_subset
            (f := Function.update (Function.update t.balanceOf src (t.balanceOf src - n)) dst
              (Function.update t.balanceOf src (t.balanceOf src - n) dst + n))
            ((subset_insert dst s).trans (subset_insert src _))
          omega }
  else none

variable {t}

@[simp] theorem mint_balanceOf (a : α) (n : ℕ) (x : α) :
    (t.mint a n).balanceOf x = t.balanceOf x + if x = a then n else 0 := by
  simp only [mint, Function.update_apply]
  split_ifs with hx
  · rw [hx]
  · rfl

@[simp] theorem mint_totalSupply (a : α) (n : ℕ) : (t.mint a n).totalSupply = t.totalSupply + n := rfl

theorem burn_eq_some {a : α} {n : ℕ} {t' : Token α} :
    t.burn a n = some t' ↔ n ≤ t.balanceOf a ∧ t'.totalSupply + n = t.totalSupply ∧
      ∀ x, t'.balanceOf x + (if x = a then n else 0) = t.balanceOf x := by
  have hsupply := t.balanceOf_le a
  unfold burn
  constructor
  · intro h
    by_cases hn : n ≤ t.balanceOf a
    · rw [dif_pos hn, Option.some.injEq] at h
      subst h
      refine ⟨hn, by simp only; omega, fun x => ?_⟩
      simp only [Function.update_apply]
      split_ifs with hx
      · rw [hx]
        omega
      · rfl
    · rw [dif_neg hn] at h
      cases h
  · rintro ⟨hn, hs, hb⟩
    rw [dif_pos hn, Option.some.injEq]
    ext x
    · have hx := hb x
      simp only [Function.update_apply]
      split_ifs at hx ⊢ with hxa
      · rw [hxa] at hx ⊢
        omega
      · omega
    · simp only
      omega

theorem transfer_eq_some {src dst : α} {n : ℕ} {t' : Token α} :
    t.transfer src dst n = some t' ↔ n ≤ t.balanceOf src ∧ t'.totalSupply = t.totalSupply ∧
      ∀ x, t'.balanceOf x + (if x = src then n else 0) = t.balanceOf x + (if x = dst then n else 0) := by
  unfold transfer
  constructor
  · intro h
    by_cases hn : n ≤ t.balanceOf src
    · rw [dif_pos hn, Option.some.injEq] at h
      subst h
      refine ⟨hn, rfl, fun x => ?_⟩
      simp only [Function.update_apply]
      -- a branch where a holder differs from itself is void
      split_ifs <;> subst_vars <;> first | omega | contradiction
    · rw [dif_neg hn] at h
      cases h
  · rintro ⟨hn, hs, hb⟩
    rw [dif_pos hn, Option.some.injEq]
    ext x
    · have hx := hb x
      simp only [Function.update_apply]
      split_ifs at hx ⊢ <;> subst_vars <;> first | omega | contradiction
    · exact hs.symm

/-- **A transfer is undone by the transfer back.** -/
theorem transfer_back {src dst : α} {n : ℕ} {t' : Token α} (h : t.transfer src dst n = some t') :
    t'.transfer dst src n = some t := by
  obtain ⟨hn, hs, hb⟩ := transfer_eq_some.mp h
  refine transfer_eq_some.mpr ⟨?_, hs.symm, fun x => ?_⟩
  · -- `dst` holds at least the `n` it was credited
    have hdst := hb dst
    rw [if_pos rfl] at hdst
    by_cases hds : dst = src
    · subst hds
      rw [if_pos rfl] at hdst
      omega
    · rw [if_neg hds] at hdst
      omega
  · have hx := hb x
    omega

/-- **A burn is undone by the mint of its amount to its holder.** -/
theorem burn_mint {a : α} {n : ℕ} {t' : Token α} (h : t.burn a n = some t') : t'.mint a n = t := by
  obtain ⟨-, hs, hb⟩ := burn_eq_some.mp h
  ext x
  · rw [mint_balanceOf]
    exact hb x
  · rw [mint_totalSupply]
    exact hs

end Token

end Fungible
