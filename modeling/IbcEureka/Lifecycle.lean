/-
# The packet lifecycle, abstractly

What a pair of IBC routers is for, stated over the trace of lifecycle events
their logs record: a packet is sent under a source key (client id and
sequence) at most once; the destination delivers it to its application at
most once per destination key, and writes one acknowledgement with each
delivery; the source resolves it (acknowledgement or timeout callback) at
most once per source key, and only for a packet whose commitment is that of
the packet sent under the key.

`Lifecycle.Spec` is this property of a trace. It holds of the empty trace
and four transition rules extend it (`Spec.append_sent` and its siblings),
each under the side condition a router checks before the transition; a
router's invariant then only has to establish those side conditions.

Key definitions: `Lifecycle.PacketEvent`, `Lifecycle.select`, `Lifecycle.Spec`.
Key theorems: `Lifecycle.Spec.nil`, `Lifecycle.Spec.append_sent`,
`Lifecycle.Spec.append_received`, `Lifecycle.Spec.append_resolved`.
-/
import Mathlib.Data.List.Basic

namespace Lifecycle

/-- An event of a packet's lifecycle. -/
inductive PacketEvent (P : Type)
  /-- The source router committed the packet. -/
  | sent (p : P)
  /-- The destination router delivered the packet to its application. -/
  | received (p : P)
  /-- The destination router wrote the packet's acknowledgement. -/
  | acknowledged (p : P)
  /-- The source router delivered the acknowledgement or the timeout to its application. -/
  | resolved (p : P)
  deriving DecidableEq, Repr

variable {P K C : Type} [DecidableEq K]

def PacketEvent.sent? : PacketEvent P → Option P
  | .sent p => some p
  | _ => none

def PacketEvent.received? : PacketEvent P → Option P
  | .received p => some p
  | _ => none

def PacketEvent.acknowledged? : PacketEvent P → Option P
  | .acknowledged p => some p
  | _ => none

def PacketEvent.resolved? : PacketEvent P → Option P
  | .resolved p => some p
  | _ => none

/-- The packets of the events of one kind in the trace `T` whose key is `k`, in order. -/
def select (kind : PacketEvent P → Option P) (key : P → K) (k : K) (T : List (PacketEvent P)) : List P :=
  (T.filterMap kind).filter fun p => key p = k

@[simp] theorem select_nil (kind : PacketEvent P → Option P) (key : P → K) (k : K) :
    select kind key k [] = [] := rfl

@[simp] theorem select_append (kind : PacketEvent P → Option P) (key : P → K) (k : K)
    (T T' : List (PacketEvent P)) : select kind key k (T ++ T') = select kind key k T ++ select kind key k T' := by
  simp [select, List.filter_append]

theorem select_singleton (kind : PacketEvent P → Option P) (key : P → K) (k : K) (e : PacketEvent P) :
    select kind key k [e] = match kind e with
      | some p => if key p = k then [p] else []
      | none => [] := by
  cases h : kind e <;> simp [select, h, List.filter_cons]

theorem select_pair (kind : PacketEvent P → Option P) (key : P → K) (k : K) (a b : PacketEvent P) :
    select kind key k [a, b] = select kind key k [a] ++ select kind key k [b] := by
  rw [← select_append]
  rfl

theorem mem_select_iff {kind : PacketEvent P → Option P} {key : P → K} {k : K} {T : List (PacketEvent P)}
    {p : P} : p ∈ select kind key k T ↔ (∃ e ∈ T, kind e = some p) ∧ key p = k := by
  simp [select]

/-- The lifecycle of the trace `T` is sound, for packets whose source and destination keys
are `src` and `dst` and whose commitment is `commit`. -/
structure Spec (src dst : P → K) (commit : P → C) (T : List (PacketEvent P)) : Prop where
  sent_once : ∀ k, (select PacketEvent.sent? src k T).length ≤ 1
  received_once : ∀ k, (select PacketEvent.received? dst k T).length ≤ 1
  acknowledged_eq_received : ∀ k,
    select PacketEvent.acknowledged? dst k T = select PacketEvent.received? dst k T
  resolved_once : ∀ k, (select PacketEvent.resolved? src k T).length ≤ 1
  resolved_sent : ∀ k p, p ∈ select PacketEvent.resolved? src k T →
    ∃ p' ∈ select PacketEvent.sent? src k T, commit p' = commit p

variable {src dst : P → K} {commit : P → C} {T : List (PacketEvent P)}

theorem Spec.nil : Spec src dst commit [] :=
  ⟨by simp, by simp, by simp, by simp, by simp⟩

theorem Spec.resolved_eq_nil (h : Spec src dst commit T) {k : K} (hk : select PacketEvent.sent? src k T = []) :
    select PacketEvent.resolved? src k T = [] := by
  refine List.eq_nil_iff_forall_not_mem.mpr fun p hp => ?_
  obtain ⟨p', hp', -⟩ := h.resolved_sent k p hp
  rw [hk] at hp'
  exact List.not_mem_nil hp'

/-- A packet may be sent under a key nothing was sent under. -/
theorem Spec.append_sent (h : Spec src dst commit T) (p : P)
    (hfresh : select PacketEvent.sent? src (src p) T = []) : Spec src dst commit (T ++ [.sent p]) where
  sent_once k := by
    by_cases hk : src p = k
    · subst hk
      simp [select_singleton, PacketEvent.sent?, hfresh]
    · simpa [select_singleton, PacketEvent.sent?, hk] using h.sent_once k
  received_once k := by simpa [select_singleton, PacketEvent.received?] using h.received_once k
  acknowledged_eq_received k := by
    simpa [select_singleton, PacketEvent.acknowledged?, PacketEvent.received?] using h.acknowledged_eq_received k
  resolved_once k := by simpa [select_singleton, PacketEvent.resolved?] using h.resolved_once k
  resolved_sent k q hq := by
    simp only [select_append, select_singleton, PacketEvent.resolved?, List.append_nil] at hq
    obtain ⟨p', hp', hc⟩ := h.resolved_sent k q hq
    exact ⟨p', by simp [hp'], hc⟩

/-- A packet may be delivered, with its acknowledgement, under a destination key nothing
was delivered under. -/
theorem Spec.append_received (h : Spec src dst commit T) (p : P)
    (hfresh : select PacketEvent.received? dst (dst p) T = []) :
    Spec src dst commit (T ++ [.received p, .acknowledged p]) where
  sent_once k := by
    simpa [select_pair, select_singleton, PacketEvent.sent?] using h.sent_once k
  received_once k := by
    by_cases hk : dst p = k
    · subst hk
      simp [select_pair, select_singleton, PacketEvent.received?, hfresh]
    · simpa [select_pair, select_singleton, PacketEvent.received?, hk] using h.received_once k
  acknowledged_eq_received k := by
    simp [select_pair, select_singleton, PacketEvent.acknowledged?, PacketEvent.received?,
      h.acknowledged_eq_received k]
  resolved_once k := by
    simpa [select_pair, select_singleton, PacketEvent.resolved?] using h.resolved_once k
  resolved_sent k q hq := by
    simp only [select_append, select_pair, select_singleton, PacketEvent.resolved?, List.append_nil] at hq
    obtain ⟨p', hp', hc⟩ := h.resolved_sent k q hq
    exact ⟨p', by simp [hp'], hc⟩

/-- A packet may be resolved under a source key nothing was resolved under, when the
packet sent under the key has its commitment. -/
theorem Spec.append_resolved (h : Spec src dst commit T) (p : P)
    (hfresh : select PacketEvent.resolved? src (src p) T = [])
    (hsent : ∃ p' ∈ select PacketEvent.sent? src (src p) T, commit p' = commit p) :
    Spec src dst commit (T ++ [.resolved p]) where
  sent_once k := by simpa [select_singleton, PacketEvent.sent?] using h.sent_once k
  received_once k := by simpa [select_singleton, PacketEvent.received?] using h.received_once k
  acknowledged_eq_received k := by
    simpa [select_singleton, PacketEvent.acknowledged?, PacketEvent.received?] using h.acknowledged_eq_received k
  resolved_once k := by
    by_cases hk : src p = k
    · subst hk
      simp [select_singleton, PacketEvent.resolved?, hfresh]
    · simpa [select_singleton, PacketEvent.resolved?, hk] using h.resolved_once k
  resolved_sent k q hq := by
    simp only [select_append, select_singleton, PacketEvent.resolved?, List.mem_append] at hq
    have hsent' : ∀ p' ∈ select PacketEvent.sent? src k T,
        p' ∈ select PacketEvent.sent? src k (T ++ [.resolved p]) := by
      intro p' hp'
      simp [hp']
    rcases hq with hq | hq
    · obtain ⟨p', hp', hc⟩ := h.resolved_sent k q hq
      exact ⟨p', hsent' p' hp', hc⟩
    · split at hq
      · obtain rfl := List.mem_singleton.mp hq
        rename_i hk
        subst hk
        obtain ⟨p', hp', hc⟩ := hsent
        exact ⟨p', hsent' p' hp', hc⟩
      · simp at hq

end Lifecycle
