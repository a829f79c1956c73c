/-
# Quorums of distinct signers

An m-of-n check over a list of signatures recovers a signer from each and
rejects a signer seen before, whether the loop compares with every earlier
signer or asks a growing list whether it holds the new one. Either way its
body, run from a list of signers seen so far, fails or appends one signer not
in that list. `foldlM_collect` turns that one-step fact into one about the
whole loop: the signers it ends with are distinct, one per signature; so as
many signatures as the threshold give a quorum of distinct signers
(`hasQuorum_of_foldlM`).

Key definitions: `Quorum.HasQuorum`.
Key theorems: `Quorum.foldlM_collect`, `Quorum.hasQuorum_of_foldlM`.
-/
import Mathlib.Data.List.Nodup
import IbcEureka.Lib.Txn

namespace Quorum

open Txn

variable {α σ ε : Type}

/-- At least `k` distinct members have `signed`. -/
def HasQuorum (member signed : α → Prop) (k : ℕ) : Prop :=
  ∃ signers : List α, signers.Nodup ∧ k ≤ signers.length ∧ ∀ a ∈ signers, member a ∧ signed a

/-- A quorum stays one for a wider membership and a weaker notion of having signed. -/
theorem HasQuorum.mono {member member' signed signed' : α → Prop} {k : ℕ} (h : HasQuorum member signed k)
    (hmember : ∀ a, member a → signed a → member' a) (hsigned : ∀ a, member a → signed a → signed' a) :
    HasQuorum member' signed' k := by
  obtain ⟨signers, hnodup, hk, hall⟩ := h
  refine ⟨signers, hnodup, hk, fun a ha => ?_⟩
  obtain ⟨hm, hs⟩ := hall a ha
  exact ⟨hmember a hm hs, hsigned a hm hs⟩

section Collect

variable {body : List α → σ → Except ε (List α)} {recovers : σ → α → Prop}

/-- **Collecting signers.** If one step of the loop appends a signer that the signature recovers
to and that was not seen before, the whole loop ends with the signers seen before it and one new,
distinct signer per signature. -/
theorem foldlM_collect
    (hbody : ∀ seen sig seen', body seen sig = .ok seen' → ∃ a, seen' = seen ++ [a] ∧ a ∉ seen ∧ recovers sig a) :
    ∀ (sigs : List σ) (seen result : List α), seen.Nodup → sigs.foldlM body seen = .ok result →
      result.Nodup ∧ result.length = seen.length + sigs.length ∧ ∀ a ∈ result, a ∈ seen ∨ ∃ sig ∈ sigs, recovers sig a
  | [], seen, result, hseen, h => by
    have hres : seen = result := pure_eq_ok.mp h
    subst hres
    exact ⟨hseen, by simp, fun a ha => .inl ha⟩
  | sig :: sigs, seen, result, hseen, h => by
    rw [List.foldlM_cons, bind_eq_ok] at h
    obtain ⟨seen', hstep, hrest⟩ := h
    obtain ⟨a, rfl, hnew, hrec⟩ := hbody seen sig seen' hstep
    have hnodup : (seen ++ [a]).Nodup := by
      rw [← List.concat_eq_append]
      exact hseen.concat hnew
    obtain ⟨hres, hlen, hmem⟩ := foldlM_collect hbody sigs (seen ++ [a]) result hnodup hrest
    refine ⟨hres, by simp [hlen]; omega, fun b hb => ?_⟩
    rcases hmem b hb with hseen' | ⟨sig', hsig', hrec'⟩
    · rcases List.mem_append.mp hseen' with hold | hsingle
      · exact .inl hold
      · rw [List.mem_singleton.mp hsingle]
        exact .inr ⟨sig, List.mem_cons_self, hrec⟩
    · exact .inr ⟨sig', List.mem_cons_of_mem sig hsig', hrec'⟩

/-- A successful loop from no signer over at least `k` signatures, each recovering to a member
that signed, gives a quorum of `k`. -/
theorem hasQuorum_of_foldlM
    (hbody : ∀ seen sig seen', body seen sig = .ok seen' → ∃ a, seen' = seen ++ [a] ∧ a ∉ seen ∧ recovers sig a)
    {member signed : α → Prop} (hgood : ∀ sig a, recovers sig a → member a ∧ signed a)
    {sigs : List σ} {k : ℕ} (hk : k ≤ sigs.length) {result : List α} (h : sigs.foldlM body [] = .ok result) :
    HasQuorum member signed k := by
  obtain ⟨hnodup, hlen, hmem⟩ := foldlM_collect hbody sigs [] result List.nodup_nil h
  refine ⟨result, hnodup, by simpa [hlen] using hk, fun a ha => ?_⟩
  rcases hmem a ha with hnil | ⟨sig, -, hrec⟩
  · cases hnil
  · exact hgood sig a hrec

end Collect

end Quorum
