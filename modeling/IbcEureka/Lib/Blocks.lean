/-
# Strings of fixed-width blocks

A digest has a fixed width, so a string laid out as digests end to end is read
back block by block: the words of one positive length form a uniquely
decodable code (`uniquelyDecodable_of_length`). A list is recovered from the
images of its elements wherever each element is recovered from its image
(`eq_of_map_eq`); with the first, a list is recovered from the blocks its
elements lay out.

A list laid out in blocks of `k` entries has at index `i` entry `i % k` of
block `i / k` (`getElem?_flatMap_range`), and its set flags are those of its
blocks (`count_flatMap_range`). Entries of a list paired with flags and kept
where the flag is set are the entries at the indices whose flag is set
(`filterMap_zip_eq`), as many as there are set flags (`length_filterMap_zip`).

Key theorems: `Blocks.uniquelyDecodable_of_length`, `Blocks.eq_of_map_eq`, `Blocks.getElem?_flatMap_range`,
`Blocks.filterMap_zip_eq`.
-/
import Mathlib

namespace Blocks

open InformationTheory

variable {α β : Type*}

/-- The words of one positive length `n` are uniquely decodable: the first block of a
concatenation is its first `n` letters. -/
theorem uniquelyDecodable_of_length {n : ℕ} (hn : 0 < n) : UniquelyDecodable {w : List α | w.length = n} := by
  intro l
  induction l with
  | nil =>
    rintro (_ | ⟨w', l'⟩) - hl' h
    · rfl
    · -- a block of positive length cannot come out of the empty concatenation
      have hw' : w'.length = n := hl' w' List.mem_cons_self
      have hnil : w' = [] := List.flatten_eq_nil_iff.mp (h.symm.trans List.flatten_nil) w' List.mem_cons_self
      rw [hnil, List.length_nil] at hw'
      omega
  | cons w l ih =>
    rintro (_ | ⟨w', l'⟩) hl hl' h
    · have hw : w.length = n := hl w List.mem_cons_self
      have hnil : w = [] := List.flatten_eq_nil_iff.mp (h.trans List.flatten_nil) w List.mem_cons_self
      rw [hnil, List.length_nil] at hw
      omega
    · have hw : w.length = n := hl w List.mem_cons_self
      have hw' : w'.length = n := hl' w' List.mem_cons_self
      rw [List.flatten_cons, List.flatten_cons] at h
      obtain ⟨hhead, htail⟩ := List.append_inj h (hw.trans hw'.symm)
      rw [hhead, ih l' (fun v hv => hl v (List.mem_cons_of_mem _ hv))
        (fun v hv => hl' v (List.mem_cons_of_mem _ hv)) htail]

theorem eq_of_map_eq {f : α → β} :
    ∀ {l l' : List α}, (∀ a ∈ l, ∀ b ∈ l', f a = f b → a = b) → l.map f = l'.map f → l = l'
  | [], [], _, _ => rfl
  | [], _ :: _, _, h => by simp at h
  | _ :: _, [], _, h => by simp at h
  | a :: l, b :: l', hinj, h => by
    rw [List.map_cons, List.map_cons, List.cons.injEq] at h
    rw [hinj a List.mem_cons_self b List.mem_cons_self h.1,
      eq_of_map_eq (fun x hx y hy => hinj x (List.mem_cons_of_mem _ hx) y (List.mem_cons_of_mem _ hy)) h.2]

/-! ## Blocks of entries, and entries selected by flags -/

/-- Entry `i` of a list laid out in blocks of `k` entries, the block of `a` being
`g a 0, …, g a (k - 1)`, is entry `i % k` of the block of element `i / k`. -/
theorem getElem?_flatMap_range {k : ℕ} (hk : 0 < k) (g : α → ℕ → β) :
    ∀ (l : List α) (i : ℕ), (l.flatMap fun a => (List.range k).map (g a))[i]? = l[i / k]?.map fun a => g a (i % k)
  | [], i => by simp
  | a :: l, i => by
    rw [List.flatMap_cons]
    by_cases hi : i < k
    · rw [List.getElem?_append_left (by simpa using hi), Nat.div_eq_of_lt hi, Nat.mod_eq_of_lt hi]
      simp [hi]
    · obtain ⟨j, rfl⟩ : ∃ j, i = k + j := ⟨i - k, by omega⟩
      rw [List.getElem?_append_right (by simp), List.length_map, List.length_range, Nat.add_sub_cancel_left,
        getElem?_flatMap_range hk g l j, Nat.add_div_left _ hk, Nat.add_mod_left, List.getElem?_cons_succ]

/-- The set flags of a list laid out in blocks of flags are the set flags of the blocks. -/
theorem count_flatMap_range (k : ℕ) (g : α → ℕ → Bool) (l : List α) :
    (l.flatMap fun a => (List.range k).map (g a)).count true = (l.map fun a => (List.range k).countP (g a)).sum := by
  rw [List.count_flatMap]
  congr 1
  refine List.map_congr_left fun a _ => ?_
  simp [List.count_eq_countP, List.countP_map, Function.comp_def]

theorem filterMap_zip_eq : ∀ (f : ℕ → Bool) (flags : List Bool) (xs : List α), xs.length ≤ flags.length →
    (∀ i < xs.length, flags[i]? = some (f i)) →
      (flags.zip xs).filterMap (fun p => if p.1 then some p.2 else none) =
        (List.range xs.length).filterMap fun i => if f i then xs[i]? else none
  | _, _, [], _, _ => by simp
  | _, [], _ :: _, hlen, _ => by simp at hlen
  | f, b :: flags, x :: xs, hlen, hf => by
    have hb : b = f 0 := by simpa using hf 0 (by simp)
    -- the rest of the flags read `f` one index further on
    have ih := filterMap_zip_eq (fun i => f (i + 1)) flags xs (by simpa using hlen)
      (fun i hi => by simpa using hf (i + 1) (by simpa using hi))
    rw [List.zip_cons_cons, List.length_cons, List.range_succ_eq_map, List.filterMap_cons, List.filterMap_cons,
      List.filterMap_map, ih, hb]
    cases f 0 with
    | false => simp
    | true => simp

/-- As many entries are kept as there are set flags, when there is an entry for every flag. -/
theorem length_filterMap_zip : ∀ (flags : List Bool) (xs : List α), flags.length ≤ xs.length →
    ((flags.zip xs).filterMap (fun p => if p.1 then some p.2 else none)).length = flags.count true
  | [], _, _ => by simp
  | _ :: _, [], hlen => by simp at hlen
  | b :: flags, x :: xs, hlen => by
    have ih := length_filterMap_zip flags xs (by simpa using hlen)
    rw [List.zip_cons_cons, List.filterMap_cons, List.count_cons]
    cases b <;> simp [ih]

end Blocks
