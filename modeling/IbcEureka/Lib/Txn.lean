/-
# Runs of a system whose steps are all or nothing

A contract call or a program instruction either succeeds, giving a new state
and the events it emitted, or fails and leaves the state as it was. `Txn.apply`
is one such step, `Txn.exec` a run of many from a state and an event log: the
failed steps drop out, the log collects the events of the others.

Everything proved about a run comes from one rule (`exec_induction`): a
property of state and log that every successful step keeps holds after any
run. `exec_append` cuts a run at any point, so that "afterwards" statements
about a later state are statements about a run from an earlier one.

A step is written in the `Except` monad, its checks as `Txn.require` (Solidity's
`require`, Anchor's `require!`); `Txn.bind_eq_ok` and `Txn.require_bind_eq_ok`
take a successful step apart into the checks that passed and what followed.

Key definitions: `Txn.require`, `Txn.apply`, `Txn.exec`.
Key theorems: `Txn.bind_eq_ok`, `Txn.exec_append`, `Txn.exec_induction`, `Txn.exec_induction_on`,
`Txn.exec_inputs_induction`, `Txn.exec_rel`.
-/
import Mathlib.Data.List.Basic
import Mathlib.Data.List.Forall2

namespace Txn

/-- Fail with `err` unless `c` holds. -/
def require {ε : Type} (c : Prop) [Decidable c] (err : ε) : Except ε Unit :=
  if c then .ok () else .error err

/-- The value of `o`, or a failure with `err`. -/
def expect {ε α : Type} (o : Option α) (err : ε) : Except ε α :=
  match o with
  | some a => .ok a
  | none => .error err

@[simp] theorem expect_eq_ok {ε α : Type} {o : Option α} {err : ε} {a : α} : expect o err = .ok a ↔ o = some a := by
  cases o <;> simp [expect]

theorem bind_eq_ok {ε α β : Type} {x : Except ε α} {f : α → Except ε β} {r : β} :
    x >>= f = .ok r ↔ ∃ a, x = .ok a ∧ f a = .ok r := by
  cases x <;> simp [bind, Except.bind]

theorem bind_unit_eq_ok {ε β : Type} {x : Except ε Unit} {f : Unit → Except ε β} {r : β} :
    x >>= f = .ok r ↔ x = .ok () ∧ f () = .ok r := by
  rw [bind_eq_ok]
  constructor
  · rintro ⟨⟨⟩, hx, hf⟩
    exact ⟨hx, hf⟩
  · rintro ⟨hx, hf⟩
    exact ⟨(), hx, hf⟩

@[simp] theorem pure_eq_ok {ε α : Type} {a b : α} : (pure a : Except ε α) = .ok b ↔ a = b := by
  simp [pure, Except.pure]

@[simp] theorem require_eq_ok {ε : Type} {c : Prop} [Decidable c] {err : ε} {u : Unit} :
    require c err = .ok u ↔ c := by
  unfold require
  split <;> simp_all

theorem require_bind_eq_ok {ε β : Type} {c : Prop} [Decidable c] {err : ε} {f : Unit → Except ε β} {r : β} :
    require c err >>= f = .ok r ↔ c ∧ f () = .ok r := by
  unfold require
  split <;> simp_all [bind, Except.bind]

theorem require_bind_of_pos {ε β : Type} {c : Prop} [Decidable c] {err : ε} {f : Unit → Except ε β} (h : c) :
    require c err >>= f = f () := by
  simp [require, h, bind, Except.bind]

theorem require_bind_of_neg {ε β : Type} {c : Prop} [Decidable c] {err : ε} {f : Unit → Except ε β} (h : ¬c) :
    require c err >>= f = .error err := by
  simp [require, h, bind, Except.bind]

theorem mapError_eq_ok {ε ε' α : Type} {x : Except ε α} {g : ε → ε'} {a : α} :
    x.mapError g = .ok a ↔ x = .ok a := by
  cases x <;> simp [Except.mapError]

theorem mapM_eq_ok {ε α β : Type} {f : α → Except ε β} :
    ∀ {l : List α} {bs : List β}, l.mapM f = .ok bs ↔ List.Forall₂ (fun a b => f a = .ok b) l bs
  | [], bs => by
    cases bs <;> simp [pure, Except.pure, List.forall₂_nil_left_iff]
  | a :: l, bs => by
    rw [List.mapM_cons]
    cases bs with
    | nil => simp [bind_eq_ok, pure, Except.pure, List.forall₂_nil_right_iff]
    | cons b bs => simp [bind_eq_ok, pure, Except.pure, mapM_eq_ok, and_comm]

theorem forM_eq_ok {ε α : Type} {f : α → Except ε Unit} {u : Unit} :
    ∀ {l : List α}, l.forM f = .ok u ↔ ∀ a ∈ l, f a = .ok ()
  | [] => by simp [List.forM, pure, Except.pure]
  | a :: l => by
    rw [List.forM.eq_2, bind_eq_ok, List.forall_mem_cons]
    constructor
    · rintro ⟨⟨⟩, ha, hl⟩
      exact ⟨ha, forM_eq_ok.mp hl⟩
    · rintro ⟨ha, hl⟩
      exact ⟨(), ha, forM_eq_ok.mpr hl⟩

theorem mapM_range_eq_ok {ε β : Type} {f : ℕ → Except ε β} {n : ℕ} {bs : List β} :
    (List.range n).mapM f = .ok bs ↔ bs.length = n ∧ ∀ i (hi : i < bs.length), f i = .ok bs[i] := by
  rw [mapM_eq_ok, List.forall₂_iff_get]
  constructor
  · rintro ⟨hlen, h⟩
    refine ⟨by simpa using hlen.symm, fun i hi => ?_⟩
    simpa using h i (by simpa [← hlen] using hi) hi
  · rintro ⟨hlen, h⟩
    refine ⟨by simpa using hlen.symm, fun i h₁ h₂ => ?_⟩
    simpa using h i h₂

variable {σ ι ε ω : Type} (step : σ → ι → Except ε (σ × List ω))

/-- One step: the new state and the events of a step that succeeds, the same state and
no event for one that fails. -/
def apply (s : σ) (i : ι) : σ × List ω :=
  match step s i with
  | .ok r => r
  | .error _ => (s, [])

/-- The state and the log after the inputs `is`, from the state and log `p`. -/
def exec (p : σ × List ω) (is : List ι) : σ × List ω :=
  is.foldl (fun p i => ((apply step p.1 i).1, p.2 ++ (apply step p.1 i).2)) p

@[simp] theorem exec_nil (p : σ × List ω) : exec step p [] = p := rfl

theorem exec_cons (p : σ × List ω) (i : ι) (is : List ι) :
    exec step p (i :: is) = exec step ((apply step p.1 i).1, p.2 ++ (apply step p.1 i).2) is := rfl

theorem exec_append (p : σ × List ω) (is js : List ι) :
    exec step p (is ++ js) = exec step (exec step p is) js := by
  simp [exec, List.foldl_append]

theorem apply_of_ok {s s' : σ} {i : ι} {evs : List ω} (h : step s i = .ok (s', evs)) :
    apply step s i = (s', evs) := by
  simp [apply, h]

theorem apply_of_error {s : σ} {i : ι} {e : ε} (h : step s i = .error e) :
    apply step s i = (s, []) := by
  simp [apply, h]

theorem apply_cases (s : σ) (i : ι) :
    ∃ s' evs, apply step s i = (s', evs) ∧ ((s' = s ∧ evs = []) ∨ step s i = .ok (s', evs)) := by
  unfold apply
  cases step s i with
  | error e => exact ⟨s, [], rfl, .inl ⟨rfl, rfl⟩⟩
  | ok r => exact ⟨r.1, r.2, rfl, .inr rfl⟩

theorem exec_log (p : σ × List ω) (is : List ι) :
    ∃ evs, (exec step p is).2 = p.2 ++ evs := by
  induction is generalizing p with
  | nil => exact ⟨[], by simp⟩
  | cons i is ih =>
    obtain ⟨evs, h⟩ := ih ((apply step p.1 i).1, p.2 ++ (apply step p.1 i).2)
    exact ⟨(apply step p.1 i).2 ++ evs, by rw [exec_cons, h, List.append_assoc]⟩

/-- A run from a log is the run from the empty log, its events appended to that log. -/
theorem exec_from_log (s : σ) (log : List ω) (is : List ι) :
    exec step (s, log) is = ((exec step (s, []) is).1, log ++ (exec step (s, []) is).2) := by
  induction is generalizing s log with
  | nil => simp
  | cons i is ih =>
    rw [exec_cons, exec_cons, ih, ih (apply step s i).1 ([] ++ (apply step s i).2)]
    simp

/-- **Runs seen through a projection.** When every step of `step`, seen through `f` on states
and `g` on logs, is a step of `step'` that succeeds or fails with it, so is every run. -/
theorem exec_project {σ' ε' ω' : Type} (step' : σ' → ι → Except ε' (σ' × List ω')) (f : σ → σ')
    (g : List ω → List ω') (hg : ∀ a b, g (a ++ b) = g a ++ g b)
    (hok : ∀ s i s₁ evs, step s i = .ok (s₁, evs) → step' (f s) i = .ok (f s₁, g evs))
    (herr : ∀ s i e, step s i = .error e → ∃ e', step' (f s) i = .error e') :
    ∀ (is : List ι) (p : σ × List ω), (f (exec step p is).1, g (exec step p is).2) = exec step' (f p.1, g p.2) is := by
  intro is
  induction is with
  | nil => intro p; rfl
  | cons i is ih =>
    intro p
    rw [exec_cons, exec_cons, ih]
    -- one step: both succeed with related results, or both fail and change nothing
    cases hstep : step p.1 i with
    | ok r =>
      rw [apply_of_ok step' (hok _ _ _ _ hstep), apply_of_ok step hstep, hg]
    | error e =>
      obtain ⟨e', herr'⟩ := herr _ _ _ hstep
      -- a failed step logs nothing, and neither does its image
      have hnil : g [] = [] := by
        have hlen := congrArg List.length (hg [] [])
        simpa using hlen
      rw [apply_of_error step' herr', apply_of_error step hstep, hg, hnil]

/-- **Invariants of runs.** A property of state and log that every successful step
preserves holds after every run from a state and log where it holds. -/
theorem exec_induction (Inv : σ → List ω → Prop)
    (hstep : ∀ s log i s' evs, Inv s log → step s i = .ok (s', evs) → Inv s' (log ++ evs)) :
    ∀ (is : List ι) (p : σ × List ω), Inv p.1 p.2 → Inv (exec step p is).1 (exec step p is).2 := by
  intro is
  induction is with
  | nil => intro p h; exact h
  | cons i is ih =>
    intro p h
    obtain ⟨s', evs, hr, hcase⟩ := apply_cases step p.1 i
    rw [exec_cons, hr]
    apply ih
    rcases hcase with ⟨rfl, rfl⟩ | hok
    · simpa using h
    · exact hstep _ _ _ _ _ h hok

/-- **Invariants of runs of admissible inputs.** A property that every successful step on an
input satisfying `Q` preserves holds after every run of such inputs. -/
theorem exec_induction_on (Q : ι → Prop) (Inv : σ → List ω → Prop)
    (hstep : ∀ s log i s' evs, Q i → Inv s log → step s i = .ok (s', evs) → Inv s' (log ++ evs)) :
    ∀ (is : List ι) (p : σ × List ω), (∀ i ∈ is, Q i) → Inv p.1 p.2 →
      Inv (exec step p is).1 (exec step p is).2 := by
  intro is
  induction is with
  | nil => intro p _ h; exact h
  | cons i is ih =>
    intro p hq h
    obtain ⟨s', evs, hr, hcase⟩ := apply_cases step p.1 i
    rw [exec_cons, hr]
    apply ih _ fun j hj => hq j (List.mem_cons_of_mem i hj)
    rcases hcase with ⟨rfl, rfl⟩ | hok
    · simpa using h
    · exact hstep _ _ _ _ _ (hq i List.mem_cons_self) h hok

/-- **Invariants that name the inputs.** A property of the inputs taken so far and the state,
which every step keeps with its input added (a failed step as well as a successful one), holds
after every run. -/
theorem exec_inputs_induction (Inv : List ι → σ → Prop)
    (hok : ∀ is s i s' evs, Inv is s → step s i = .ok (s', evs) → Inv (is ++ [i]) s')
    (herr : ∀ is s i, Inv is s → Inv (is ++ [i]) s) :
    ∀ (is pre : List ι) (p : σ × List ω), Inv pre p.1 → Inv (pre ++ is) (exec step p is).1 := by
  intro is
  induction is with
  | nil => intro pre p h; simpa using h
  | cons i is ih =>
    intro pre p h
    obtain ⟨s', evs, hr, hcase⟩ := apply_cases step p.1 i
    rw [exec_cons, hr, ← List.singleton_append, ← List.append_assoc]
    apply ih
    rcases hcase with ⟨rfl, rfl⟩ | hstep
    · exact herr _ _ _ h
    · exact hok _ _ _ _ _ h hstep

/-- **Relations along runs.** A reflexive and transitive relation that relates the
states before and after every successful step from a state satisfying an invariant
relates the start and the end of every run from such a state. -/
theorem exec_rel (Inv : σ → List ω → Prop) (R : σ → σ → Prop)
    (hinv : ∀ s log i s' evs, Inv s log → step s i = .ok (s', evs) → Inv s' (log ++ evs))
    (hrefl : ∀ s, R s s) (htrans : ∀ a b c, R a b → R b c → R a c)
    (hstep : ∀ s log i s' evs, Inv s log → step s i = .ok (s', evs) → R s s') :
    ∀ (is : List ι) (p : σ × List ω), Inv p.1 p.2 → R p.1 (exec step p is).1 := by
  intro is
  induction is with
  | nil => intro p _; exact hrefl _
  | cons i is ih =>
    intro p h
    obtain ⟨s', evs, hr, hcase⟩ := apply_cases step p.1 i
    rw [exec_cons, hr]
    rcases hcase with ⟨rfl, rfl⟩ | hok
    · exact ih (p.1, p.2 ++ []) (by simpa using h)
    · exact htrans _ _ _ (hstep _ _ _ _ _ h hok) (ih (s', p.2 ++ evs) (hinv _ _ _ _ _ h hok))

end Txn
