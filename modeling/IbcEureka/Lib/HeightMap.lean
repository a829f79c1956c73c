/-
# Maps from heights to stored entries

A light client keeps, for each height, what it has accepted there, or an empty
value. Three properties of such a map recur, and each has the rule for a
single write, the only form an update takes:

* an entry, once stored, never changes (`Keeps`; a write at an empty key keeps
  every entry, `keeps_update`);
* a designated key is the largest with an entry (`IsLatest`), or the largest of
  a base key and every key with an entry (`IsMax`); a write moves it to the
  larger of the two keys (`IsLatest.update`, `IsMax.update`);
* every entry but the one at the root key is backed by an entry at a lower key
  with an earlier time (`Chained`; a new entry with such a backer keeps the
  map chained, `Chained.extend`).

A loop that writes one value at the keys of a list leaves that value at
exactly those keys (`foldl_update_apply`).

`Keeps` and `IsLatest` are about a map `κ → α` and a predicate `stored` on
values (`Option.isSome`, or "is not the zero word"); `Chained` is about a
relation "`a` is stored at `k`", so that it also covers a map of digests,
whose entries are known only through their preimages. The orders are core's
`Std` order classes, which the fixed-width integers have.

Key definitions: `HeightMap.Keeps`, `HeightMap.IsLatest`, `HeightMap.IsMax`, `HeightMap.Chained`.
Key theorems: `HeightMap.keeps_update`, `HeightMap.foldl_update_apply`, `HeightMap.IsLatest.update`, `HeightMap.IsMax.update`,
`HeightMap.Chained.extend`.
-/
import Mathlib.Logic.Function.Basic

namespace HeightMap

variable {κ α β : Type}

section Keeps

variable (stored : α → Prop)

/-- `g` holds every entry of `f`, unchanged. -/
def Keeps (f g : κ → α) : Prop := ∀ k, stored (f k) → g k = f k

theorem keeps_update [DecidableEq κ] {f : κ → α} {k : κ} (hk : ¬stored (f k)) (v : α) :
    Keeps stored f (Function.update f k v) := by
  intro k' hk'
  have hne : k' ≠ k := by
    rintro rfl
    exact hk hk'
  exact Function.update_of_ne hne v f

variable {stored}

theorem Keeps.refl (f : κ → α) : Keeps stored f f := fun _ _ => rfl

theorem Keeps.trans {f g h : κ → α} (hfg : Keeps stored f g) (hgh : Keeps stored g h) : Keeps stored f h := by
  intro k hk
  have hg : stored (g k) := by
    rw [hfg k hk]
    exact hk
  rw [hgh k hg, hfg k hk]

end Keeps

section IsLatest

variable [LE κ] (stored : α → Prop)

/-- `latest` has an entry, and every key with an entry is at most `latest`. -/
structure IsLatest (f : κ → α) (latest : κ) : Prop where
  stored_latest : stored (f latest)
  le_latest : ∀ k, stored (f k) → k ≤ latest

/-- `latest` is the largest of `base` and of every key with an entry. -/
structure IsMax (f : κ → α) (base latest : κ) : Prop where
  base_le : base ≤ latest
  attained : latest = base ∨ stored (f latest)
  le_latest : ∀ k, stored (f k) → k ≤ latest

variable {stored}

/-- A write of an entry at `k` makes the latest key any `l'` among the old one and `k` that is
at least both. -/
theorem IsLatest.update [Std.IsPreorder κ] [DecidableEq κ] {f : κ → α} {l k l' : κ} (h : IsLatest stored f l)
    {v : α} (hv : stored v) (hl : l ≤ l') (hk : k ≤ l') (hl' : l' = l ∨ l' = k) :
    IsLatest stored (Function.update f k v) l' where
  stored_latest := by
    by_cases hlk : l' = k
    · rw [hlk, Function.update_self]
      exact hv
    · have hll : l' = l := hl'.resolve_right hlk
      rw [Function.update_of_ne hlk, hll]
      exact h.stored_latest
  le_latest k' hk' := by
    by_cases hkk : k' = k
    · rw [hkk]
      exact hk
    · rw [Function.update_of_ne hkk] at hk'
      exact Std.le_trans (h.le_latest k' hk') hl

/-- A write of an entry at `k` makes the maximum any `l'` among the old one and `k` that is at
least both. -/
theorem IsMax.update [Std.IsPreorder κ] [DecidableEq κ] {f : κ → α} {base l k l' : κ} (h : IsMax stored f base l)
    {v : α} (hv : stored v) (hl : l ≤ l') (hk : k ≤ l') (hl' : l' = l ∨ l' = k) :
    IsMax stored (Function.update f k v) base l' where
  base_le := Std.le_trans h.base_le hl
  attained := by
    by_cases hlk : l' = k
    · right
      rw [hlk, Function.update_self]
      exact hv
    · have hll : l' = l := hl'.resolve_right hlk
      rw [Function.update_of_ne hlk, hll]
      exact h.attained
  le_latest k' hk' := by
    by_cases hkk : k' = k
    · rw [hkk]
      exact hk
    · rw [Function.update_of_ne hkk] at hk'
      exact Std.le_trans (h.le_latest k' hk') hl

end IsLatest

section Chained

variable [LT κ] [LT β]

/-- Every entry, except at `root`, has an entry at a lower key with an earlier time: `R k a`
says that `a` is stored at `k`. -/
def Chained (R : κ → α → Prop) (time : α → β) (root : κ) : Prop :=
  ∀ k a, R k a → k = root ∨ ∃ k' a', k' < k ∧ R k' a' ∧ time a' < time a

/-- A new entry `a₀` at `k₀`, backed by an entry at a lower key with an earlier time, keeps the
map chained, provided every old entry stays and every entry of the new map is an old one or
has the time of `a₀` at `k₀`. -/
theorem Chained.extend {R R' : κ → α → Prop} {time : α → β} {root k₀ : κ} {a₀ : α} (h : Chained R time root)
    (hkeep : ∀ k a, R k a → R' k a) (hnew : ∀ k a, R' k a → R k a ∨ (k = k₀ ∧ time a = time a₀))
    (hback : ∃ k' a', k' < k₀ ∧ R k' a' ∧ time a' < time a₀) : Chained R' time root := by
  intro k a hR'
  rcases hnew k a hR' with hR | ⟨rfl, htime⟩
  · -- an old entry keeps its old backer, which is still there
    rcases h k a hR with hroot | ⟨k', a', hlt, hR'', hbefore⟩
    · exact .inl hroot
    · exact .inr ⟨k', a', hlt, hkeep k' a' hR'', hbefore⟩
  · obtain ⟨k', a', hlt, hR'', hbefore⟩ := hback
    exact .inr ⟨k', a', hlt, hkeep k' a' hR'', htime ▸ hbefore⟩

end Chained

section Writes

variable [DecidableEq κ]

theorem foldl_update_apply (key : β → κ) (v : α) (l : List β) (f : κ → α) (k : κ) :
    l.foldl (fun g b => Function.update g (key b) v) f k = if ∃ b ∈ l, key b = k then v else f k := by
  induction l generalizing f with
  | nil => simp
  | cons b l ih =>
    rw [List.foldl_cons, ih]
    by_cases hk : key b = k
    · -- the head writes at `k`, so `k` ends with `v` either way
      have hmem : ∃ c ∈ b :: l, key c = k := ⟨b, List.mem_cons_self, hk⟩
      rw [if_pos hmem, ← hk, Function.update_self]
      split <;> rfl
    · have hiff : (∃ c ∈ b :: l, key c = k) ↔ ∃ c ∈ l, key c = k := by
        simp [hk]
      rw [Function.update_of_ne (Ne.symm hk)]
      exact if_congr hiff.symm rfl rfl

end Writes

end HeightMap
