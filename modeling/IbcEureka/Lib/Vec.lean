/-
# Rust vectors: updating an entry in place, `swap_remove`, and `chunks_exact`

Rust programs keep small tables in a `Vec`. An entry is reached by
`iter_mut().find(..)` and changed in place: the first entry that matches is
replaced (`Vec.modifyFirst`). An entry is dropped by `swap_remove(i)`, which
moves the last entry into slot `i` (`Vec.swapRemove`).

For a table keyed by a field, where the update keeps every key, an update at
one key changes the lookup of that key and of no other
(`find?_modifyFirst_self`, `find?_modifyFirst_of_ne`), and keeps the keys
(`map_modifyFirst`). `swap_remove` reorders what is left: up to a permutation
it is `eraseIdx` (`swapRemove_perm`), and, at the position of an entry in a
list without duplicates, it is `erase` of that entry (`swapRemove_erase`).

A slice is cut into records of a fixed width by `chunks_exact(n)`, which
leaves what does not fill a record as a remainder (`Vec.chunksExact`). The
chunks of any list are records of `n` that, with the remainder, make the list
(`chunksExact_spec`), and records laid end to end are cut back into
themselves (`chunksExact_flatten`).

Key definitions: `Vec.modifyFirst`, `Vec.swapRemove`, `Vec.chunksExact`.
Key theorems: `Vec.find?_modifyFirst_self`, `Vec.find?_modifyFirst_of_ne`, `Vec.swapRemove_perm`,
`Vec.swapRemove_erase`, `Vec.chunksExact_spec`, `Vec.chunksExact_flatten`.
-/
import Mathlib.Data.List.Perm.Basic
import Mathlib.Data.List.Nodup

namespace Vec

variable {α κ : Type*}

/-! ## Updating the first match in place -/

/-- `if let Some(x) = v.iter_mut().find(|x| p(x)) { *x = f(x) }`: the first entry that satisfies
`p` becomes `f` of it. -/
def modifyFirst (p : α → Bool) (f : α → α) : List α → List α
  | [] => []
  | a :: l => if p a then f a :: l else a :: modifyFirst p f l

variable {f : α → α}

/-- An update that keeps the key keeps every key. -/
theorem map_modifyFirst (key : α → κ) (hf : ∀ a, key (f a) = key a) (p : α → Bool) :
    ∀ l : List α, (modifyFirst p f l).map key = l.map key
  | [] => rfl
  | a :: l => by
    unfold modifyFirst
    split
    · simp [hf]
    · simp [map_modifyFirst key hf p l]

/-- Every entry after the update was there before, or is the update of the first match. -/
theorem mem_modifyFirst {p : α → Bool} {b : α} :
    ∀ {l : List α}, b ∈ modifyFirst p f l → b ∈ l ∨ ∃ a, l.find? p = some a ∧ b = f a
  | [], h => by simp [modifyFirst] at h
  | a :: l, h => by
    unfold modifyFirst at h
    split at h
    · rename_i hp
      rcases List.mem_cons.mp h with rfl | hb
      · exact .inr ⟨a, by simp [hp], rfl⟩
      · exact .inl (List.mem_cons_of_mem _ hb)
    · rename_i hp
      rcases List.mem_cons.mp h with rfl | hb
      · exact .inl List.mem_cons_self
      · rcases mem_modifyFirst hb with hb | ⟨a', ha', rfl⟩
        · exact .inl (List.mem_cons_of_mem _ hb)
        · exact .inr ⟨a', by simp [hp, ha'], rfl⟩

section Keyed

variable [DecidableEq κ] (key : α → κ)

theorem find?_modifyFirst_self (hf : ∀ a, key (f a) = key a) (k : κ) :
    ∀ l : List α, (modifyFirst (fun a => key a == k) f l).find? (fun a => key a == k) =
      (l.find? fun a => key a == k).map f
  | [] => rfl
  | a :: l => by
    by_cases ha : key a = k
    · simp [modifyFirst, ha, hf]
    · simp [modifyFirst, ha, find?_modifyFirst_self hf k l]

theorem find?_modifyFirst_of_ne (hf : ∀ a, key (f a) = key a) {k k' : κ} (hk : k' ≠ k) :
    ∀ l : List α, (modifyFirst (fun a => key a == k) f l).find? (fun a => key a == k') =
      l.find? fun a => key a == k'
  | [] => rfl
  | a :: l => by
    by_cases ha : key a = k
    · have hne : (key a == k') = false := by simpa using fun h => hk (h.symm.trans ha)
      rw [modifyFirst, if_pos (by simpa using ha), List.find?_cons, List.find?_cons, hf, hne]
    · rw [modifyFirst, if_neg (by simpa using ha), List.find?_cons, List.find?_cons, find?_modifyFirst_of_ne hf hk l]

end Keyed

/-! ## `swap_remove` -/

/-- `v.swap_remove(i)`: the last entry moves into slot `i` and the vector loses its last slot.
Rust panics for `i` out of range; the programs only pass positions they found. -/
def swapRemove (l : List α) (i : ℕ) : List α :=
  match l.getLast? with
  | some last => (l.set i last).dropLast
  | none => []

theorem swapRemove_concat (init : List α) (last : α) (i : ℕ) :
    swapRemove (init ++ [last]) i = ((init ++ [last]).set i last).dropLast := by
  simp [swapRemove]

/-- Up to the order of what is left, `swap_remove` removes the entry at `i`. -/
theorem swapRemove_perm {l : List α} {i : ℕ} (hi : i < l.length) : (swapRemove l i).Perm (l.eraseIdx i) := by
  rcases l.eq_nil_or_concat with rfl | ⟨init, last, rfl⟩
  · simp at hi
  rw [List.concat_eq_append, swapRemove_concat]
  simp only [List.concat_eq_append, List.length_append, List.length_singleton] at hi
  by_cases hinit : i < init.length
  · rw [List.set_append_left _ _ hinit, List.dropLast_concat, List.eraseIdx_append_of_lt_length hinit,
      List.set_eq_take_append_cons_drop, if_pos hinit, List.eraseIdx_eq_take_drop_succ]
    exact List.perm_middle.trans (List.perm_append_singleton _ _).symm
  · -- the last slot: its entry is removed where it stands
    obtain rfl : i = init.length := by omega
    simp [List.eraseIdx_append_of_length_le]

/-- At the position of `a` in a list without duplicates, `swap_remove` is `erase a` up to order. -/
theorem swapRemove_erase [BEq α] [LawfulBEq α] {l : List α} {a : α} {i : ℕ} (hnd : l.Nodup)
    (h : l.idxOf? a = some i) : (swapRemove l i).Perm (l.erase a) := by
  obtain ⟨hi, hget, -⟩ := List.idxOf?_eq_some_iff.mp h
  rw [← hget, hnd.erase_getElem]
  exact swapRemove_perm hi

/-! ## `chunks_exact` -/

/-- `chunks_exact(n)`: the whole chunks of `n` entries, in order, and the remainder. -/
def chunksExact (n : ℕ) (l : List α) : List (List α) × List α :=
  if 0 < n ∧ n ≤ l.length then
    (l.take n :: (chunksExact n (l.drop n)).1, (chunksExact n (l.drop n)).2)
  else ([], l)
termination_by l.length
decreasing_by simp only [List.length_drop]; omega

theorem chunksExact_of_lt {n : ℕ} {l : List α} (h : l.length < n) : chunksExact n l = ([], l) := by
  rw [chunksExact, if_neg (by omega)]

theorem chunksExact_append {n : ℕ} {c : List α} (hc : c.length = n) (hn : 0 < n) (r : List α) :
    chunksExact n (c ++ r) = (c :: (chunksExact n r).1, (chunksExact n r).2) := by
  rw [chunksExact, if_pos ⟨hn, by simp [hc]⟩]
  simp [← hc]

/-- Chunks of `n` laid end to end are cut back into those chunks, with nothing left over. -/
theorem chunksExact_flatten {n : ℕ} (hn : 0 < n) :
    ∀ {cs : List (List α)}, (∀ c ∈ cs, c.length = n) → chunksExact n cs.flatten = (cs, [])
  | [], _ => chunksExact_of_lt (by simpa using hn)
  | c :: cs, hcs => by
    rw [List.flatten_cons, chunksExact_append (hcs c List.mem_cons_self) hn,
      chunksExact_flatten hn fun c' hc' => hcs c' (List.mem_cons_of_mem _ hc')]

/-- Whatever is cut, the chunks each have `n` entries, the remainder fewer, and together they
are the list. -/
theorem chunksExact_spec {n : ℕ} (hn : 0 < n) (l : List α) :
    (∀ c ∈ (chunksExact n l).1, c.length = n) ∧ (chunksExact n l).2.length < n ∧
      (chunksExact n l).1.flatten ++ (chunksExact n l).2 = l := by
  fun_induction chunksExact n l with
  | case1 l h ih =>
    obtain ⟨hlen, hrem, hcat⟩ := ih
    refine ⟨?_, hrem, ?_⟩
    · simp only [List.mem_cons, forall_eq_or_imp, List.length_take]
      exact ⟨by omega, hlen⟩
    · rw [List.flatten_cons, List.append_assoc, hcat, List.take_append_drop]
  | case2 l h =>
    exact ⟨by simp, by simp only; omega, rfl⟩

end Vec
